import MachineTest.Verify.Buttons

/-! # Orders in the whole app

What is on order is a number for each dish on display (`Memory.order`). In an undisturbed run every
event is a change of these numbers, so the app as a whole is an `Order.machine`, whatever menus come
and whoever logs in (`order_on_display`). An order can be placed from every checkout page
(`order_placed`). -/

namespace MachineTest

namespace Memory

section
variable {D : Type} [DecidableEq D] [DartDouble D] {s : Memory D}

/-- Nothing is on order when nothing is in the cart. -/
theorem CartInv.order_eq_zero (h : s.CartInv) (hempty : s.cartData = ∅) :
    s.order = fun _ => 0 := by
  funext d
  by_cases hd : d ∈ s.dishes
  · rw [order_of_mem hd]
    by_contra hne
    have hheld := h.held d hd hne
    rw [hempty] at hheld
    cases hheld
  · exact if_neg hd

end

end Memory

namespace Mocky

/-! ## What is on order -/

section
variable {D : Type} [DecidableEq D] [DartDouble D] [Zero D] [Add D] [Sub D] [Mul D] [IntCast D]
variable {s s' : Mocky D} {e : Event D}

/-- What an event does to the order on display. -/
def effect (s : Mocky D) : Event D → Order.Change (DishRef D)
  | .app .ok => if s.app.routes.head? = some .orderPlaced then .place else .look
  | e => s.change e

omit [DecidableEq D] [Zero D] [Add D] [Sub D] [Mul D] [IntCast D] in
/-- Only the button of the order dialog places an order. -/
theorem effect_app {e : MockAPP.Event}
    (h : e = .ok → s.app.routes.head? ≠ some .orderPlaced) : s.effect (.app e) = .look := by
  cases e with
  | ok => exact if_neg (h rfl)
  | _ => rfl

/-- A step does to the order on display what its event means. -/
theorem Step.effect (h : s.Accounted) (h' : s'.Accounted) (hgood : s.Undisturbed e)
    (hstep : s.Step e s') : s'.memory.order = s.memory.order.apply (s.effect e) := by
  obtain ⟨hcart, hids⟩ : s.memory.CartInv ∧ s.memory.DistinctIds := h.menuInv.kept
  have hcart' : s'.memory.CartInv := h'.menuInv.kept.1
  cases hstep with
  | session hstep _ hpages _ =>
    rw [effect_app (head_ne_orderPlaced h.inv hstep hpages)]
    rfl
  | verificationCompleted | placeOrder | logout | card | mediaQuery => rfl
  | answersNext | dispose => rfl
  | back | cleared =>
    dsimp only
    rw [leave_memory]
    rfl
  | opened => rfl
  | @created user _ =>
    have hempty : s.memory.cartData = ∅ := (hgood.2 .createHomePage rfl).1
    have hmemory := createHomePage_memory s (some user) s.app.routes.head?
    have hempty' : (s.createHomePage (some user) s.app.routes.head?).memory.cartData = ∅ :=
      (congrArg (fun t : Memory D => t.cartData) hmemory).trans hempty
    rw [hcart.order_eq_zero hempty, hcart'.order_eq_zero hempty']
    rfl
  | ordered hroutes =>
    have hplace : s.effect (.app .ok) = .place := if_pos (by rw [hroutes]; rfl)
    rw [hplace, hcart'.order_eq_zero rfl]
    rfl
  | @dish page pages rest isAdd i j d hroutes hpages _ hd _ _ =>
    obtain ⟨hbuilt, _, _⟩ := h.single.homePage h.inv h.upToDate hroutes hpages
    rw [hbuilt] at hd
    have hadd : s.effect (.dish isAdd i j) = .add d (sign isAdd) := Singleton.change_dish hd
    rw [hadd]
    exact (Memory.adds_tapped ..).order (Singleton.mem_dishes_iff.mpr ⟨i, j, hd⟩)
  | @row page pages rest isAdd d hroutes hpages _ hd =>
    have hadd : s.effect (.row isAdd d.dishId) = .add d (sign isAdd) := hcart.change_row hids hd
    rw [hadd]
    exact (Memory.adds_rowTapped hd _).order (hcart.displayed d hd)
  | @respond response _ =>
    rw [respond_memory] at hcart' ⊢
    rcases HomePageController.fetchAPIDataResume_cases response s.memory with
      ⟨tree, menus, rfl, hmenus, hs⟩ | ⟨_, isLoading, hs⟩
    · have hempty : s.memory.cartData = ∅ := ((hgood.2 _ rfl).2 menus hmenus).1
      have hempty' :
          (HomePageController.fetchAPIDataResume (.body tree) s.memory).cartData = ∅ := by
        rw [hs]
        exact hempty
      rw [hcart.order_eq_zero hempty, hcart'.order_eq_zero hempty']
      rfl
    · rw [hs]
      rfl

/-- **The order on display.** In an undisturbed run of the app the numbers on display are what the
changes of the run make of no order: pieces are added and taken away one by one, and a placed order
leaves none. -/
theorem order_on_display {storage : FlutterSecureStorage} {currentUser : Option User}
    {events : List (Event D)}
    (hgood : (machine D).AlongSteps Undisturbed (runApp storage currentUser) events)
    (hrun : (machine D).run (runApp storage currentUser) events = some s) :
    (Order.machine (DishRef D)).run (fun _ => 0)
      ((machine D).outputs effect (runApp storage currentUser) events) = some s.memory.order := by
  have hkeep (t : Mocky D) (e : Event D) (t' : Mocky D) (h : t.Accounted) (hgood : t.Undisturbed e)
      (hstep : (machine D).step t e = some t') : t'.Accounted := h.step hgood (step_sound hstep)
  have haccounted := accounted_runApp (D := D) storage currentUser
  have hstart : (runApp storage currentUser : Mocky D).memory.order = fun _ => 0 :=
    haccounted.menuInv.kept.1.order_eq_zero
      (runApp_cases (P := fun t => t.memory.cartData = ∅) (fun _ _ => rfl) fun _ _ => rfl)
  rw [← hstart]
  refine Machine.run_abstracts (f := fun t : Mocky D => t.memory.order) hkeep ?_ haccounted hgood
    hrun
  intro t e t' h hgood hstep
  exact congrArg some ((step_sound hstep).effect h (hkeep t e t' h hgood hstep) hgood).symm

end

/-- Two pieces of the dish are ordered, and after that one. -/
theorem order_on_display_oneDish : ∃ s d, (machine ℚ).run
      (runApp { userToken := some ⟨⟨"alice", .google⟩, 0⟩ } (some ⟨"alice", .google⟩))
      [.respond oneDish, .dish true 0 0, .app .badgeOntap, .row true (some "1"), .app .placeOrder,
        .app .ok, .dish true 0 0] = some s ∧ s.memory.dishes = [d] ∧ s.memory.order d = 1 ∧
    (Order.machine (DishRef ℚ)).run (fun _ => 0) ((machine ℚ).outputs effect
      (runApp { userToken := some ⟨⟨"alice", .google⟩, 0⟩ } (some ⟨"alice", .google⟩))
      [.respond oneDish, .dish true 0 0, .app .badgeOntap, .row true (some "1"), .app .placeOrder,
        .app .ok, .dish true 0 0]) = some s.memory.order := by
  obtain ⟨s, d, hrun, hdishes, hcount⟩ : ∃ s d, (machine ℚ).run homeOfOneDish
      [.dish true 0 0, .app .badgeOntap, .row true (some "1"), .app .placeOrder, .app .ok,
        .dish true 0 0] = some s ∧ s.memory.dishes = [d] ∧ s.memory.dishOrdeCount d = 1 :=
    ⟨_, _, rfl, rfl, rfl⟩
  rw [← run_homeOfOneDish] at hrun
  have horder : s.memory.order d = 1 :=
    (Memory.order_of_mem (hdishes ▸ List.mem_singleton_self d)).trans hcount
  refine ⟨s, d, hrun, hdishes, horder, order_on_display (undisturbed_oneDish ?_) hrun⟩
  simp [Undisturbed, CreatesNoSecond, phoneEvent, Phone.Assumed, Phone.ArrivesUnused]

/-! ## Orders that are placed -/

/-- Nothing is ordered, and the home page on top shows it. -/
structure ShowsNoOrder {D : Type} (s : Mocky D) : Prop where
  onHomePage : s.app.routes.head? = some .homePage
  shown : ∃ page, s.homePages.head? = some page ∧ page.built = s.memory
  cartData : s.memory.cartData = ∅
  cartCount : s.memory.cartCount = 0
  counts : ∀ d ∈ s.memory.dishes, s.memory.dishOrdeCount d = 0

section
variable {R : Type} [CommRing R] [DecidableEq R] [DartDouble R] {s : Mocky R}

/-- **An order.** In an undisturbed run an order can be placed from every checkout page on top. The
user is charged the amount due for what is ordered of the menu on display, and is back on the home
page with the same menu, of which nothing is ordered. -/
theorem order_placed {storage : FlutterSecureStorage} {currentUser : Option User}
    {events : List (Event R)}
    (hgood : (machine R).AlongSteps Undisturbed (runApp storage currentUser) events)
    (hrun : (machine R).run (runApp storage currentUser) events = some s)
    (hcheckout : s.app.routes.head? = some .checkoutPage) :
    ∃ s', (machine R).run s [.app .placeOrder, .app .ok] = some s' ∧ s'.ShowsNoOrder ∧
      s'.memory.menuModel = s.memory.menuModel ∧
      (machine R).total charged s [.app .placeOrder, .app .ok] =
        Order.bill s.memory.dishes DishRef.dishPrice s.memory.dishOrdeCount := by
  have hbooks : s.Books := books_run hgood hrun
  have hcart : s.memory.CartInv := hbooks.menuInv.kept.1
  obtain ⟨rest, hroutes⟩ := List.head?_eq_some_iff.mp hcheckout
  obtain ⟨homePage, page, hhomes, hlast, hpage⟩ :=
    hbooks.single.of_checkoutPage hbooks.inv (hroutes ▸ List.mem_cons_self)
  have hbuilds : page.builds = true := ((rows_sourced hrun).2 page (hpage ▸ List.mem_cons_self)).1
  obtain ⟨below, rest', rfl⟩ : ∃ below rest', rest = below :: rest' :=
    (hroutes ▸ hbooks.inv.wellStacked).rest_ne_nil nofun nofun
  obtain rfl : below = .homePage := (hroutes ▸ hbooks.inv.wellStacked).liesOn
  let dialog : Mocky R := { s with
    app := s.app.push .orderPlaced
    contexts := s.contexts.after s.app .placeOrder }
  have hdialog : dialog.app.routes = .orderPlaced :: .checkoutPage :: .homePage :: rest' :=
    congrArg (Route.orderPlaced :: ·) hroutes
  have hplace : (machine R).step s (.app .placeOrder) = some dialog :=
    step_placeOrder hroutes (congrArg List.head? hpage) hbuilds
  have hok := step_ok hdialog
  refine ⟨_, Machine.run_cons.mpr ⟨_, hplace, Machine.run_cons.mpr ⟨_, hok, rfl⟩⟩, ?_, rfl, ?_⟩
  · refine ⟨?_, ?_, rfl, rfl, fun d hd => hcart.resetCount_eq_zero hd⟩
    · change dialog.app.routes.tail.tail.head? = some .homePage
      rw [hdialog]
      rfl
    · refine ⟨homePage.build (CheckoutController.resetCount s.memory), ?_, rfl⟩
      change (s.homePages.modifyHead _).head? = _
      rw [hhomes]
      rfl
  · have htotal := hbooks.total page.model (by
      rw [Mocky.phone, Mocky.page, hhomes, hpage]
      rfl)
    have hcharged : dialog.charged (.app .ok) = page.model.totalPrice := by
      have hpages : dialog.checkoutPages = [page] := hpage
      rw [charged, hdialog, hpages]
    calc (machine R).total charged s [.app .placeOrder, .app .ok]
      _ = 0 + (dialog.charged (.app .ok) + 0) := by
        rw [Machine.total, hplace, Option.elim_some, Machine.total, hok, Option.elim_some]
        rfl
      _ = page.model.totalPrice := by rw [hcharged, zero_add, add_zero]
      _ = CheckoutController.calculateTotalAmount s.memory := htotal
      _ = Order.bill s.memory.dishes DishRef.dishPrice s.memory.dishOrdeCount := hcart.total_eq

end

theorem order_placed_oneDish : ∃ s s', (machine ℚ).run
      (runApp { userToken := some ⟨⟨"alice", .google⟩, 0⟩ } (some ⟨"alice", .google⟩))
      [.respond oneDish, .dish true 0 0, .app .badgeOntap, .row true (some "1")] = some s ∧
    (machine ℚ).run s [.app .placeOrder, .app .ok] = some s' ∧ s'.ShowsNoOrder := by
  obtain ⟨s, hrun, hroute⟩ : ∃ s, (machine ℚ).run homeOfOneDish
      [.dish true 0 0, .app .badgeOntap, .row true (some "1")] = some s ∧
      s.app.routes.head? = some .checkoutPage := ⟨_, rfl, rfl⟩
  rw [← run_homeOfOneDish] at hrun
  have hevents : ∀ e ∈ [.dish true 0 0, .app .badgeOntap, .row true (some "1")],
      ∀ t : Mocky ℚ, t.Undisturbed e := by
    simp [Undisturbed, CreatesNoSecond, phoneEvent, Phone.Assumed, Phone.ArrivesUnused]
  obtain ⟨s', hplaced, hshows, _⟩ := order_placed (undisturbed_oneDish hevents) hrun hroute
  exact ⟨s, s', hrun, hplaced, hshows⟩

end Mocky
end MachineTest
