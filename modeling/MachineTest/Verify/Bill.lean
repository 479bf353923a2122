import MachineTest.Verify.Ledger
import MachineTest.Verify.OnScreen

/-! # The bill on the screen

With one home page, and menus of distinct ids that arrive while nothing is in the cart, the whole
app keeps its books: the badge counts what is ordered, and the checkout page has a row for every
dish that is ordered and shows the amount due for them, whatever sign-ins, token calls, requests
and builds fall in between (`billed`). What the orders charge and what is left in the cart make up
the price of all that was tapped (`books_balance`). A run of the app is followed on the `Phone`
(`Mocky.Step.phone`). -/

namespace MachineTest

namespace Memory.MenuInv

variable {D : Type} [DartDouble D] {s : Memory D}

/-- Without a menu nothing is on display and nothing is in the cart. -/
theorem kept (h : s.MenuInv) : s.CartInv ∧ s.DistinctIds := by
  by_cases hmenu : s.menuModel = none
  · obtain ⟨hcart, hcount⟩ := h.unused hmenu
    have hdishes : s.dishes = [] := by
      rw [Singleton.dishes, Singleton.categories, hmenu]
      rfl
    refine ⟨⟨?_, ?_, ?_, ?_, ?_⟩, ?_⟩
    · rw [hdishes]
      exact List.nodup_nil
    · simp [hcart]
    · simp [hcart]
    · simp [hdishes]
    · rw [hdishes]
      exact hcount
    · rw [Singleton.DistinctIds, hdishes]
      exact List.nodup_nil
  · exact h.cartInv hmenu

end Memory.MenuInv

/-! ## The phone -/

namespace Phone

section
variable {D : Type} [DecidableEq D] [DartDouble D] [Zero D] [Add D] [Sub D] [Mul D] [IntCast D]

/-- A tap is one on the page that the user is on. -/
theorem step_tap {p p' : Phone D} {tap : Tap} (h : p.step (.tap tap) = some p') :
    ∃ page app, p.page = some page ∧ App.Step ⟨p.memory, page⟩ tap app ∧
      p'.memory = app.memory ∧ p'.page = some app.page := by
  rw [step] at h
  cases hpage : p.page with
  | none =>
    rw [hpage] at h
    cases h
  | some page =>
    rw [hpage] at h
    obtain ⟨_, h⟩ := Option.ite_none_left_eq_some.mp h
    obtain ⟨app, happ, rfl⟩ := Option.map_eq_some_iff.mp h
    exact ⟨page, app, rfl, App.step_sound happ, rfl, rfl⟩

end

section
variable {R : Type} [CommRing R] [DecidableEq R] [DartDouble R] {p p' : Phone R} {e : Event R}

/-- An open checkout page shows the total of the cart. -/
def ShowsTotal (p : Phone R) : Prop := ∀ model, p.page = some (.checkout model) →
  model.totalPrice = CheckoutController.calculateTotalAmount p.memory

omit [DecidableEq R] in
/-- A response does not change the total of the cart. -/
theorem calculateTotalAmount_respond {s : Memory R} (h : s.MenuInv) (response : Response R) :
    CheckoutController.calculateTotalAmount
        (HomePageController.fetchAPIDataResume response s) =
      CheckoutController.calculateTotalAmount s := by
  rw [calculateTotalAmount_eq, calculateTotalAmount_eq]
  rcases HomePageController.fetchAPIDataResume_cases response s with
    ⟨_, menus, _, _, hs⟩ | ⟨_, _, hs⟩
  · rw [hs]
    refine congrArg List.sum (List.map_congr_left fun d hd => ?_)
    have hold : d.fetch ≠ s.fetches := (h.fetch_lt hd).ne
    exact congrArg (fun n : ℤ => d.dishPrice * n) (if_neg hold)
  · rw [hs]

theorem ShowsTotal.step (h : p.ShowsTotal) (hmenu : p.memory.MenuInv)
    (hstep : p.step e = some p') : p'.ShowsTotal := by
  intro model hpage
  cases e with
  | createHomePage => cases hstep; cases hpage
  | respond response =>
    obtain ⟨_, hstep⟩ := Option.ite_none_left_eq_some.mp hstep
    cases hstep
    rw [calculateTotalAmount_respond hmenu]
    exact h model hpage
  | tap tap =>
    obtain ⟨page, app, hbefore, happ, hmemory, hafter⟩ := step_tap hstep
    have htotal : App.TotalInv ⟨p.memory, page⟩ := fun model hcheckout => by
      refine h model ?_
      rw [hbefore]
      exact congrArg some hcheckout
    rw [hmemory]
    exact htotal.step happ model (Option.some.inj (hafter.symm.trans hpage))
  | leave =>
    obtain ⟨_, hstep⟩ := Option.ite_none_right_eq_some.mp hstep
    cases hstep
    cases hpage

end
end Phone

/-! ## The app -/

namespace Mocky

section
variable {D : Type} [DecidableEq D] [DartDouble D] [Zero D] [Add D] [Sub D] [Mul D] [IntCast D]
variable {s s' : Mocky D} {e : Event D}

/-- No home page is created over another or with something in the cart, and a menu arrives with
distinct ids and while nothing is in the cart. -/
def Undisturbed (s : Mocky D) (e : Event D) : Prop :=
  s.CreatesNoSecond e ∧ ∀ phoneEvent, s.phoneEvent e = some phoneEvent →
    s.phone.Assumed phoneEvent ∧ s.phone.ArrivesUnused phoneEvent

/-- What an undisturbed run keeps: the cart holds what is ordered of the menu on display. -/
structure Accounted (s : Mocky D) : Prop extends OneHomePage s where
  menuInv : s.memory.MenuInv

/-- An event of an undisturbed run is nothing to the phone, or the phone takes a step. -/
theorem Undisturbed.phone (hgood : s.Undisturbed e) (h : s.OneHomePage) (hstep : s.Step e s') :
    s'.phone = s.phone ∨ ∃ phoneEvent, s.phone.Assumed phoneEvent ∧
      s.phone.ArrivesUnused phoneEvent ∧ s.phone.step phoneEvent = some s'.phone := by
  have hphone := h.phone hgood.1 hstep
  cases hevent : s.phoneEvent e with
  | none =>
    rw [hevent] at hphone
    exact .inl (Option.some.inj hphone).symm
  | some phoneEvent =>
    rw [hevent] at hphone
    obtain ⟨hassumed, hunused⟩ := hgood.2 phoneEvent hevent
    exact .inr ⟨phoneEvent, hassumed, hunused, hphone⟩

theorem Accounted.step (h : s.Accounted) (hgood : s.Undisturbed e) (hstep : s.Step e s') :
    s'.Accounted where
  toOneHomePage := h.toOneHomePage.step hgood.1 hstep
  menuInv := by
    rcases hgood.phone h.toOneHomePage hstep with hsame | ⟨_, hassumed, hunused, hphone⟩
    · have hmemory : s'.memory = s.memory := congrArg Phone.memory hsame
      exact hmemory ▸ h.menuInv
    · exact Phone.menuInv_step (p := s.phone) h.menuInv hassumed hunused hphone

omit [DecidableEq D] [Zero D] [Add D] [Sub D] [Mul D] in
theorem accounted_runApp (storage : FlutterSecureStorage) (currentUser : Option User) :
    (runApp storage currentUser : Mocky D).Accounted where
  toOneHomePage := oneHomePage_runApp storage currentUser
  menuInv := runApp_cases (P := fun s => s.memory.MenuInv) (fun _ _ => .fetchAPIData rfl)
    fun _ _ => .start

end

section
variable {R : Type} [CommRing R] [DecidableEq R] [DartDouble R] {s s' : Mocky R} {e : Event R}

/-- What the whole app keeps, in exact arithmetic. -/
structure Books (s : Mocky R) : Prop extends Accounted s where
  total : s.phone.ShowsTotal

theorem Books.step (h : s.Books) (hgood : s.Undisturbed e) (hstep : s.Step e s') : s'.Books where
  toAccounted := h.toAccounted.step hgood hstep
  total := by
    rcases hgood.phone h.toOneHomePage hstep with hsame | ⟨_, _, _, hphone⟩
    · exact hsame ▸ h.total
    · exact h.total.step h.menuInv hphone

omit [DecidableEq R] in
theorem books_runApp (storage : FlutterSecureStorage) (currentUser : Option User) :
    (runApp storage currentUser : Mocky R).Books where
  toAccounted := accounted_runApp storage currentUser
  total := runApp_cases (P := fun s => s.phone.ShowsTotal) (fun _ _ _ h => by cases h)
    fun _ _ _ h => by cases h

theorem books_run {storage : FlutterSecureStorage} {currentUser : Option User}
    {events : List (Event R)}
    (hgood : (machine R).AlongSteps Undisturbed (runApp storage currentUser) events)
    (hrun : (machine R).run (runApp storage currentUser) events = some s) : s.Books :=
  Machine.run_invariant_along (fun _ _ _ h hgood hstep => h.step hgood (step_sound hstep))
    (books_runApp storage currentUser) hgood hrun

/-- The checkout page has one row for each of some different dishes on display, all that are ordered
among them, with their counts. It counts the pieces and shows the amount due. -/
structure ShowsBill (s : Mocky R) (page : BuiltCheckoutPage R) : Prop where
  rows : ∃ dishes : List (DishRef R), dishes.Nodup ∧
    CheckoutPage.menuList page.built = dishes.map (CheckoutPage.cardContent s.memory) ∧
    (∀ d ∈ dishes, d ∈ s.memory.dishes) ∧
    ∀ d ∈ s.memory.dishes, s.memory.dishOrdeCount d ≠ 0 → d ∈ dishes
  heading : CheckoutPage.topHeading page.built = ((CheckoutPage.menuList page.built).length,
    Order.items s.memory.dishes s.memory.dishOrdeCount)
  total : page.model.totalPrice =
    Order.bill s.memory.dishes DishRef.dishPrice s.memory.dishOrdeCount

/-- **The bill.** In an undisturbed run a home page on top was built from the memory as it is and
its badge counts the pieces that are ordered of the menu on display, and a checkout page on top
shows the bill for them. -/
theorem billed {storage : FlutterSecureStorage} {currentUser : Option User}
    {events : List (Event R)}
    (hgood : (machine R).AlongSteps Undisturbed (runApp storage currentUser) events)
    (hrun : (machine R).run (runApp storage currentUser) events = some s) :
    (s.app.routes.head? = some .homePage → ∃ page, s.homePages.head? = some page ∧
      page.built = s.memory ∧
      page.built.cartCount = Order.items s.memory.dishes s.memory.dishOrdeCount) ∧
    (s.app.routes.head? = some .checkoutPage → ∃ page, s.checkoutPages.head? = some page ∧
      s.ShowsBill page) := by
  have hbooks : s.Books := books_run hgood hrun
  have hcart : s.memory.CartInv := hbooks.menuInv.kept.1
  refine ⟨fun hhome => ?_, fun hcheckout => ?_⟩
  · obtain ⟨rest, hroutes⟩ := List.head?_eq_some_iff.mp hhome
    have hlength := hbooks.inv.aligned.homePages
    rw [hroutes, List.count_cons_self] at hlength
    rcases hbooks.single.eq_nil_or hbooks.inv with hnil | ⟨page, hpage, hlast⟩
    · rw [hnil] at hlength
      cases hlength
    · have hhead : s.homePages.head? = some page := by rw [hpage]; rfl
      have hbuilt := hbooks.upToDate.home (topPage_of_head? rfl hhome) page hhead hlast
      refine ⟨page, hhead, hbuilt, ?_⟩
      rw [hbuilt]
      exact hcart.cartCount
  · obtain ⟨rest, hroutes⟩ := List.head?_eq_some_iff.mp hcheckout
    obtain ⟨homePage, page, hhomes, hlast, hpage⟩ :=
      hbooks.single.of_checkoutPage hbooks.inv (hroutes ▸ List.mem_cons_self)
    have hrows := hbooks.upToDate.checkout (topPage_of_head? rfl hcheckout) homePage
      (by rw [hhomes]; rfl) hlast page (by rw [hpage]; rfl)
    have hmodel : s.phone.page = some (.checkout page.model) := by
      rw [phone, Mocky.page, hhomes, hpage]
      rfl
    refine ⟨page, by rw [hpage]; rfl, ?_, ?_, ?_⟩
    · rw [hrows.menuList_eq, menuList_eq]
      exact ⟨_, s.memory.cartData.dishes_nodup, rfl, hcart.displayed, hcart.held⟩
    · rw [hrows.topHeading_eq, hrows.menuList_eq, menuList_eq, List.length_map,
        CheckoutPage.topHeading, hcart.cartCount]
      exact congrArg (·, _) (List.length_map _).symm
    · rw [hbooks.total _ hmodel]
      exact hcart.total_eq

end

/-- A menu of one dish, and then no home page and no other menu. -/
theorem undisturbed_oneDish {events : List (Event ℚ)}
    (h : ∀ e ∈ events, ∀ t : Mocky ℚ, t.Undisturbed e) : (machine ℚ).AlongSteps Undisturbed
      (runApp { userToken := some ⟨⟨"alice", .google⟩, 0⟩ } (some ⟨"alice", .google⟩))
      (.respond oneDish :: events) := by
  refine .cons step_homeOfOneDish ⟨trivial, fun phoneEvent hevent => ?_⟩ (.of_forall h)
  cases hevent
  exact ⟨Phone.assumed_oneDish (by decide), fun _ _ => ⟨rfl, rfl⟩⟩

theorem billed_oneDish : ∃ s page, (machine ℚ).run
      (runApp { userToken := some ⟨⟨"alice", .google⟩, 0⟩ } (some ⟨"alice", .google⟩))
      [.respond oneDish, .dish true 0 0, .app .badgeOntap, .row true (some "1")] = some s ∧
    s.checkoutPages.head? = some page ∧ s.ShowsBill page ∧ s.memory.cartCount = 2 := by
  obtain ⟨s, page, hrun, hroute, hpage, hcount⟩ : ∃ s page, (machine ℚ).run homeOfOneDish
      [.dish true 0 0, .app .badgeOntap, .row true (some "1")] = some s ∧
      s.app.routes.head? = some .checkoutPage ∧ s.checkoutPages.head? = some page ∧
      s.memory.cartCount = 2 := ⟨_, _, rfl, rfl, rfl, rfl⟩
  rw [← run_homeOfOneDish] at hrun
  have hevents : ∀ e ∈ [.dish true 0 0, .app .badgeOntap, .row true (some "1")],
      ∀ t : Mocky ℚ, t.Undisturbed e := by
    simp [Undisturbed, CreatesNoSecond, phoneEvent, Phone.Assumed, Phone.ArrivesUnused]
  obtain ⟨page', hpage', hbill⟩ := (billed (undisturbed_oneDish hevents) hrun).2 hroute
  cases hpage.symm.trans hpage'
  exact ⟨s, page, hrun, hpage, hbill, hcount⟩

/-! ## The ledger of the app -/

section
variable {R : Type} [DartDouble R]

/-- The total of the checkout page under the order dialog, when its button is tapped. -/
def charged [Zero R] (s : Mocky R) : Event R → R
  | .app .ok =>
    match s.app.routes, s.checkoutPages with
    | .orderPlaced :: _, page :: _ => page.model.totalPrice
    | _, _ => 0
  | _ => 0

/-- The number of items in its heading. -/
def placed (s : Mocky R) : Event R → ℤ
  | .app .ok =>
    match s.app.routes, s.checkoutPages with
    | .orderPlaced :: _, page :: _ => (CheckoutPage.topHeading page.built).2
    | _, _ => 0
  | _ => 0

/-- The change of the order that an event means, read off the menu on display. -/
def change (s : Mocky R) : Event R → Order.Change (DishRef R)
  | .dish isAdd mainIndex index => s.memory.change (.dish isAdd mainIndex index)
  | .row isAdd key => s.memory.change (.row isAdd key)
  | _ => .look

end

section
variable {R : Type} [CommRing R] [DecidableEq R] [DartDouble R] {s s' : Mocky R} {e : Event R}

omit [DecidableEq R] in
/-- The event neither orders nor changes the order. -/
theorem conserves_of_look (hcharged : s.charged e = 0 ∧ s.placed e = 0)
    (hchange : s.change e = .look)
    (htotal : CheckoutController.calculateTotalAmount s'.memory =
      CheckoutController.calculateTotalAmount s.memory)
    (hcount : s'.memory.cartCount = s.memory.cartCount) :
    s.charged e + CheckoutController.calculateTotalAmount s'.memory =
        CheckoutController.calculateTotalAmount s.memory + (s.change e).worth DishRef.dishPrice ∧
      s.placed e + s'.memory.cartCount = s.memory.cartCount + (s.change e).pieces := by
  rw [hcharged.1, hcharged.2, hchange, htotal, hcount]
  exact ⟨(zero_add _).trans (add_zero _).symm, (zero_add _).trans (add_zero _).symm⟩

omit [DecidableEq R] [DartDouble R] in
/-- Only the button of the order dialog places an order. -/
theorem charged_eq_zero {e : MockAPP.Event} (h : e = .ok → s.app.routes.head? ≠ some .orderPlaced) :
    s.charged (.app e) = 0 ∧ s.placed (.app e) = 0 := by
  cases e with
  | ok =>
    cases hroutes : s.app.routes with
    | nil => simp [charged, placed, hroutes]
    | cons top rest =>
      cases top with
      | orderPlaced => exact (h rfl (by rw [hroutes]; rfl)).elim
      | _ => simp [charged, placed, hroutes]
  | _ => exact ⟨rfl, rfl⟩

theorem Step.conserves (h : s.Books) (h' : s'.Books) (hgood : s.Undisturbed e)
    (hstep : s.Step e s') :
    s.charged e + CheckoutController.calculateTotalAmount s'.memory =
        CheckoutController.calculateTotalAmount s.memory + (s.change e).worth DishRef.dishPrice ∧
      s.placed e + s'.memory.cartCount = s.memory.cartCount + (s.change e).pieces := by
  obtain ⟨hcart, hids⟩ : s.memory.CartInv ∧ s.memory.DistinctIds := h.menuInv.kept
  have hcart' : s'.memory.CartInv := h'.menuInv.kept.1
  cases hstep with
  | session hstep _ hpages _ =>
    exact conserves_of_look (charged_eq_zero (head_ne_orderPlaced h.inv hstep hpages)) rfl rfl rfl
  | verificationCompleted | placeOrder | logout | card | mediaQuery | answersNext | dispose =>
    exact conserves_of_look ⟨rfl, rfl⟩ rfl rfl rfl
  | back | cleared =>
    refine conserves_of_look ⟨rfl, rfl⟩ rfl ?_ ?_
    all_goals
      dsimp only
      rw [leave_memory]
  | opened =>
    exact conserves_of_look ⟨rfl, rfl⟩ rfl (Memory.calculateTotalAmount_cleaned s.memory) rfl
  | @created user _ =>
    have hempty : s.memory.cartData = ∅ := (hgood.2 .createHomePage rfl).1
    have hzero : s.memory.cartCount = 0 := by
      rw [hcart.cartCount_eq_held, hempty]
      rfl
    refine conserves_of_look ⟨rfl, rfl⟩ rfl ?_ ?_
    all_goals
      dsimp only
      rw [createHomePage_memory]
    · rw [calculateTotalAmount_eq, calculateTotalAmount_eq]
      rfl
    · exact hzero.symm
  | ordered hroutes =>
    have hwell := h.inv.wellStacked
    rw [hroutes] at hwell
    obtain ⟨rest, rfl⟩ := hwell.of_orderPlaced
    obtain ⟨homePage, page, hhomes, hlast, hpage⟩ :=
      h.single.of_checkoutPage h.inv (by simp [hroutes])
    have hrows := h.upToDate.checkout (by rw [hroutes]; rfl) homePage (by rw [hhomes]; rfl) hlast
      page (by rw [hpage]; rfl)
    have htotal := h.total page.model (by rw [Mocky.phone, Mocky.page, hhomes, hpage]; rfl)
    dsimp only
    rw [leave_memory, charged, placed, hroutes, hpage]
    dsimp only
    rw [htotal, hrows.topHeading_eq]
    refine ⟨congrArg _ ?_, rfl⟩
    rw [calculateTotalAmount_eq, resetCount_cartData]
    rfl
  | @dish page pages rest isAdd i j d hroutes hpages _ hd _ _ =>
    obtain ⟨hbuilt, _, _⟩ := h.single.homePage h.inv h.upToDate hroutes hpages
    rw [hbuilt] at hd
    rw [change, Singleton.change_dish hd]
    exact (Memory.adds_tapped ..).conserves hcart hcart' (Singleton.mem_dishes_iff.mpr ⟨i, j, hd⟩)
  | @row page pages rest isAdd d hroutes hpages _ hd =>
    rw [change, hcart.change_row hids hd]
    exact (Memory.adds_rowTapped hd _).conserves hcart hcart' (hcart.displayed d hd)
  | @respond response _ =>
    refine conserves_of_look ⟨rfl, rfl⟩ rfl ?_ ?_
    · rw [respond_memory]
      exact Phone.calculateTotalAmount_respond h.menuInv response
    · rw [respond_memory]
      rcases HomePageController.fetchAPIDataResume_cases response s.memory with
        ⟨_, _, _, _, hs⟩ | ⟨_, _, hs⟩
      · rw [hs]
        rfl
      · rw [hs]

/-- **The ledger.** In an undisturbed run of the app, through any number of logins, menus and
orders, the totals of the placed orders and the total of the cart make up the price of all that was
tapped, and so do the numbers of items. -/
theorem books_balance {storage : FlutterSecureStorage} {currentUser : Option User}
    {events : List (Event R)}
    (hgood : (machine R).AlongSteps Undisturbed (runApp storage currentUser) events)
    (hrun : (machine R).run (runApp storage currentUser) events = some s) :
    (machine R).total charged (runApp storage currentUser) events +
        CheckoutController.calculateTotalAmount s.memory =
      (machine R).total (fun t e => (t.change e).worth DishRef.dishPrice)
        (runApp storage currentUser) events ∧
    (machine R).total placed (runApp storage currentUser) events + s.memory.cartCount =
      (machine R).total (fun t e => (t.change e).pieces) (runApp storage currentUser) events := by
  have hkeep (t : Mocky R) (e : Event R) (t' : Mocky R) (h : t.Books) (hgood : t.Undisturbed e)
      (hstep : (machine R).step t e = some t') : t'.Books := h.step hgood (step_sound hstep)
  have hstart : CheckoutController.calculateTotalAmount (runApp storage currentUser).memory =
      (0 : R) ∧ (runApp storage currentUser : Mocky R).memory.cartCount = 0 :=
    runApp_cases (P := fun t => CheckoutController.calculateTotalAmount t.memory = (0 : R) ∧
      t.memory.cartCount = 0) (fun _ _ => ⟨rfl, rfl⟩) fun _ _ => ⟨rfl, rfl⟩
  constructor
  · have hsum := Machine.run_conserved hkeep (fun t e t' h hgood hstep =>
      ((step_sound hstep).conserves h (hkeep t e t' h hgood hstep) hgood).1)
      (books_runApp storage currentUser) hgood hrun
    rwa [hstart.1, zero_add] at hsum
  · have hsum := Machine.run_conserved hkeep (fun t e t' h hgood hstep =>
      ((step_sound hstep).conserves h (hkeep t e t' h hgood hstep) hgood).2)
      (books_runApp storage currentUser) hgood hrun
    rwa [hstart.2, zero_add] at hsum

end

/-- Two pieces of the dish are ordered, and a third is left in the cart. -/
theorem books_balance_oneDish : ∃ s, (machine ℚ).run
      (runApp { userToken := some ⟨⟨"alice", .google⟩, 0⟩ } (some ⟨"alice", .google⟩))
      [.respond oneDish, .dish true 0 0, .app .badgeOntap, .row true (some "1"), .app .placeOrder,
        .app .ok, .dish true 0 0] = some s ∧
    s.memory.cartCount = 1 ∧
    (machine ℚ).total placed
      (runApp { userToken := some ⟨⟨"alice", .google⟩, 0⟩ } (some ⟨"alice", .google⟩))
      [.respond oneDish, .dish true 0 0, .app .badgeOntap, .row true (some "1"), .app .placeOrder,
        .app .ok, .dish true 0 0] + s.memory.cartCount =
    (machine ℚ).total (fun t e => (t.change e).pieces)
      (runApp { userToken := some ⟨⟨"alice", .google⟩, 0⟩ } (some ⟨"alice", .google⟩))
      [.respond oneDish, .dish true 0 0, .app .badgeOntap, .row true (some "1"), .app .placeOrder,
        .app .ok, .dish true 0 0] := by
  obtain ⟨s, hrun, hcount⟩ : ∃ s, (machine ℚ).run homeOfOneDish
      [.dish true 0 0, .app .badgeOntap, .row true (some "1"), .app .placeOrder, .app .ok,
        .dish true 0 0] = some s ∧ s.memory.cartCount = 1 := ⟨_, rfl, rfl⟩
  rw [← run_homeOfOneDish] at hrun
  refine ⟨s, hrun, hcount, (books_balance (undisturbed_oneDish ?_) hrun).2⟩
  simp [Undisturbed, CreatesNoSecond, phoneEvent, Phone.Assumed, Phone.ArrivesUnused]

end Mocky

end MachineTest
