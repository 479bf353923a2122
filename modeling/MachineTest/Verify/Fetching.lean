import MachineTest.Pages.Fetching
import MachineTest.Verify.Cart
import MachineTest.Verify.MenuRoundTrip

/-! # Late responses

A response that arrives late replaces the menu on display. As long as the cart is unused at that
moment the new session starts clean (`Memory.install_fresh`); otherwise the cart is left with dish
objects of the old menu, which belong to an earlier fetch. -/

namespace MachineTest

section
variable {D : Type}

theorem CartData.eq_empty_of_dishes {c : CartData D} (h : c.dishes = []) : c = ∅ :=
  CartData.ext (List.map_eq_nil_iff.mp h)

namespace Phone

/-- With a menu on display, the cart holds dishes of it and `cartCount` is the sum of its counts. -/
def MenuKept (p : Phone D) : Prop := p.memory.menuModel ≠ none →
  (∀ d ∈ p.memory.cartData.dishes, d ∈ p.memory.dishes) ∧
    p.memory.cartCount = (p.memory.dishes.map p.memory.dishOrdeCount).sum

variable [DartDouble D] [Zero D] [IntCast D]

/-- The cart is empty whenever a home page is created, and the dishes of a menu that can be tapped
have distinct ids. -/
def Assumed (p : Phone D) : Event D → Prop
  | .createHomePage => p.memory.cartData = ∅
  | .respond (.body tree) => ∀ menus, tree.bind menuModelOfTree = .ok menus →
      (p.memory.install menus).DistinctIds
  | _ => True

/-- A menu arrives only while nothing is in the cart and nothing is counted. -/
def ArrivesUnused (p : Phone D) : Event D → Prop
  | .respond (.body tree) => ∀ menus, tree.bind menuModelOfTree = .ok menus →
      p.memory.cartData = ∅ ∧ p.memory.cartCount = 0
  | _ => True

end Phone

section
variable [DartDouble D]

/-- What the events keep while every menu arrives to an unused cart. -/
structure Memory.MenuInv (s : Memory D) : Prop where
  cartInv : s.menuModel ≠ none → s.CartInv ∧ s.DistinctIds
  unused : s.menuModel = none → s.cartData = ∅ ∧ s.cartCount = 0
  allocated : ∀ d ∈ s.dishes, d.fetch < s.fetches

namespace Memory.MenuInv

variable {s : Memory D}

/-- A dish of the cart belongs to an earlier fetch than the next one. -/
theorem fetch_lt (h : s.MenuInv) {d : DishRef D} (hd : d ∈ s.cartData.dishes) :
    d.fetch < s.fetches := by
  by_cases hmenu : s.menuModel = none
  · rw [(h.unused hmenu).1] at hd
    cases hd
  · exact h.allocated d ((h.cartInv hmenu).1.displayed d hd)

theorem loading (h : s.MenuInv) (isLoading : Bool) : MenuInv { s with isLoading } where
  cartInv hmenu := by
    obtain ⟨⟨hnodup, hdisplayed, hbuilt, hheld, hcount⟩, hids⟩ := h.cartInv hmenu
    exact ⟨⟨hnodup, hdisplayed, hbuilt, hheld, hcount⟩, hids⟩
  unused := h.unused
  allocated := h.allocated

/-- A menu that arrives to an unused cart starts a session. -/
theorem install [Zero D] {menus : List (MenuModel (CategoryDish D))}
    (hids : (s.install menus).DistinctIds) (hcart : s.cartData = ∅) (hcount : s.cartCount = 0) :
    (s.install menus).MenuInv where
  cartInv _ := ⟨(Memory.install_fresh hcart hcount).cartInv, hids⟩
  unused h := by cases h
  allocated d hd := by
    have hfetch : d.fetch = s.fetches := Memory.fetch_of_mem_install hd
    exact hfetch ▸ Nat.lt_succ_self _

/-- At the start of the process the list of menus is empty, and so is the cart. -/
theorem start : ({} : Memory D).MenuInv where
  cartInv _ := by
    refine ⟨⟨List.nodup_nil, ?_, ?_, ?_, rfl⟩, List.nodup_nil⟩
    · exact fun d hd => by cases hd
    · exact fun d hd => by cases hd
    · exact fun d hd => by cases hd
  unused h := by cases h
  allocated d hd := by cases hd

theorem fetchAPIData (hcart : s.cartData = ∅) : (HomePageController.fetchAPIData s).MenuInv where
  cartInv hmenu := (hmenu rfl).elim
  unused _ := ⟨hcart, rfl⟩
  allocated d hd := by cases hd

variable [DecidableEq D] [Zero D] [Add D] [Sub D] [Mul D] [IntCast D]

theorem tap {page : Page D} {tap : Tap} {app : App D} (h : s.MenuInv)
    (hshown : page = .home → Phone.showsTabs s = true) (hstep : App.Step ⟨s, page⟩ tap app) :
    app.memory.MenuInv := by
  have hmenuModel : app.memory.menuModel = s.menuModel := hstep.menuModel
  refine ⟨fun hmenu => ?_, fun hmenu => ?_, fun d hd => ?_⟩
  · obtain ⟨hcart, hids⟩ := h.cartInv (hmenuModel ▸ hmenu)
    refine ⟨hcart.step hids hstep, ?_⟩
    rw [Singleton.DistinctIds, hstep.dishes]
    exact hids
  · obtain ⟨hcart, hcount⟩ := h.unused (hmenuModel ▸ hmenu)
    have hhidden : Phone.showsTabs s = false := by
      rw [Phone.showsTabs, ← hmenuModel, hmenu]
      rfl
    cases hstep with
    | dish | refused | opened => cases hhidden.symm.trans (hshown rfl)
    | row hd => rw [hcart] at hd; cases hd
    | back => exact ⟨hcart, hcount⟩
    | ok => exact ⟨rfl, rfl⟩
  · have hfetches : app.memory.fetches = s.fetches := by cases hstep <;> rfl
    exact hfetches ▸ h.allocated d (hstep.dishes ▸ hd)

end Memory.MenuInv

namespace Phone

variable [DecidableEq D] [Zero D] [Add D] [Sub D] [Mul D] [IntCast D]
variable {p p' : Phone D} {e : Event D}

theorem menuInv_step (h : p.memory.MenuInv) (hassumed : p.Assumed e) (hunused : p.ArrivesUnused e)
    (hstep : p.step e = some p') : p'.memory.MenuInv := by
  cases step_sound hstep with
  | created => exact .fetchAPIData hassumed
  | @installed tree menus outstanding hmenus =>
    obtain ⟨hcart, hcount⟩ := hunused menus hmenus
    exact (Memory.MenuInv.install (hassumed menus hmenus) hcart hcount).loading false
  | rejected => exact h.loading _
  | tap hshown happ => exact h.tap hshown happ
  | left => exact h

/-- The dishes of a menu that arrives are none that the cart holds. -/
theorem arrivesUnused (h : p.memory.MenuInv) (hstep : p.step e = some p') (hkept : p'.MenuKept) :
    p.ArrivesUnused e := by
  cases step_sound hstep with
  | @installed tree menus outstanding hmenus =>
    intro menus' hmenus'
    obtain rfl : menus = menus' := by
      rw [hmenus] at hmenus'
      exact Except.ok.inj hmenus'
    obtain ⟨hheld, hcount⟩ := hkept (Option.some_ne_none _)
    have hempty : p.memory.cartData.dishes = [] := List.eq_nil_iff_forall_not_mem.mpr fun d hd => by
      have hfetch : d.fetch = p.memory.fetches := Memory.fetch_of_mem_install (hheld d hd)
      exact absurd hfetch (h.fetch_lt hd).ne
    have hzero : ∀ d ∈ (p.memory.install menus).dishes,
        (p.memory.install menus).dishOrdeCount d = 0 := fun d hd => Memory.install_count_eq_zero hd
    refine ⟨CartData.eq_empty_of_dishes hempty, hcount.trans ?_⟩
    change ((p.memory.install menus).dishes.map (p.memory.install menus).dishOrdeCount).sum = 0
    rw [List.map_congr_left hzero]
    simp
  | @rejected response isLoading outstanding hrejected =>
    cases response with
    | body tree => exact fun menus hmenus => (hrejected tree menus rfl hmenus).elim
    | socketException | otherException => trivial
  | created | tap | left => trivial

end Phone
end
end

/-- **A menu on screen.** In the runs of the app that meet the assumptions, the cart holds dishes of
the menu on display and `cartCount` counts them in every state if and only if every menu arrives
while the cart is unused. -/
theorem Phone.menuKept_iff {D : Type} [DecidableEq D] [DartDouble D] [Zero D] [Add D] [Sub D]
    [Mul D] [IntCast D] {events : List (Phone.Event D)}
    (hassumed : (Phone.machine D).AlongSteps Phone.Assumed {} events) :
    (Phone.machine D).AlongStates Phone.MenuKept {} events ↔
      (Phone.machine D).AlongSteps Phone.ArrivesUnused {} events :=
  Machine.alongStates_iff_alongSteps (I := fun p => p.memory.MenuInv)
    (fun _ h hmenu => ⟨(h.cartInv hmenu).1.displayed, (h.cartInv hmenu).1.cartCount⟩)
    (fun _ _ _ h hassumed hunused hstep => Phone.menuInv_step h hassumed hunused hstep)
    (fun _ _ _ h _ hstep hkept => Phone.arrivesUnused h hstep hkept) .start hassumed

/-! ## A late response -/

/-- A body with one dish. -/
def oneDish : Response ℚ := .body (.ok (menuModelTree [menuOf [dishOf (some "1") 10]]))

theorem decode_oneDish :
    (Except.ok (menuModelTree [menuOf [dishOf (some "1") (10 : ℚ)]])).bind menuModelOfTree =
      .ok [menuOf [dishOf (some "1") 10]] :=
  menuModelOfTree_menuOf fun _ hdish => ⟨some "1", 10, List.mem_singleton.mp hdish⟩

/-- The state after a response with this body. -/
def Phone.served (p : Phone ℚ) : Phone ℚ :=
  { p with
    memory := { p.memory.install [menuOf [dishOf (some "1") 10]] with isLoading := false }
    outstanding := p.outstanding - 1 }

theorem Phone.step_respond_oneDish {p : Phone ℚ} (h : p.outstanding ≠ 0) :
    (Phone.machine ℚ).step p (.respond oneDish) = some p.served := by
  refine (if_neg h).trans ?_
  exact congrArg (fun memory => some { p with memory, outstanding := p.outstanding - 1 })
    (HomePageController.fetchAPIDataResume_ok decode_oneDish p.memory)

theorem Phone.assumed_oneDish {p : Phone ℚ}
    (h : (p.memory.install [menuOf [dishOf (some "1") 10]]).DistinctIds) :
    p.Assumed (.respond oneDish) := fun menus hmenus => by
  have hdecode := decode_oneDish.symm.trans hmenus
  cases hdecode
  exact h

/-- The first home page is left while it loads, and its response arrives after a dish of the
second's menu was ordered. -/
def lateResponse : List (Phone.Event ℚ) :=
  [.createHomePage, .leave, .createHomePage, .respond oneDish, .tap (.dish true 0 0),
    .respond oneDish]

theorem lateResponse_assumed : (Phone.machine ℚ).AlongSteps Phone.Assumed {} lateResponse := by
  refine .cons rfl rfl (.cons rfl trivial (.cons rfl rfl ?_))
  refine .cons (Phone.step_respond_oneDish (Nat.succ_ne_zero _))
    (Phone.assumed_oneDish (by decide)) ?_
  refine .cons rfl trivial ?_
  exact .cons (Phone.step_respond_oneDish (Nat.succ_ne_zero _))
    (Phone.assumed_oneDish (by decide)) trivial

/-- Up to the tap every menu arrives to an unused cart. -/
theorem Phone.menuKept_iff_lateResponse :
    ((Phone.machine ℚ).AlongStates Phone.MenuKept {} lateResponse ↔
      (Phone.machine ℚ).AlongSteps Phone.ArrivesUnused {} lateResponse) ∧
    (Phone.machine ℚ).AlongStates Phone.MenuKept {}
      [.createHomePage, .leave, .createHomePage, .respond oneDish, .tap (.dish true 0 0)] := by
  refine ⟨Phone.menuKept_iff lateResponse_assumed, (Phone.menuKept_iff ?_).mpr ?_⟩
  · refine .cons rfl rfl (.cons rfl trivial (.cons rfl rfl ?_))
    exact .cons (Phone.step_respond_oneDish (Nat.succ_ne_zero _))
      (Phone.assumed_oneDish (by decide)) (.cons rfl trivial trivial)
  · refine .cons rfl trivial (.cons rfl trivial (.cons rfl trivial ?_))
    exact .cons (Phone.step_respond_oneDish (Nat.succ_ne_zero _)) (fun _ _ => ⟨rfl, rfl⟩)
      (.cons rfl trivial trivial)

/-- The state before the tap. -/
def loadedOnce : Phone ℚ :=
  Phone.served ⟨HomePageController.fetchAPIData (HomePageController.fetchAPIData {}), some .home, 2⟩

/-- The state after the tap. -/
def orderedOnce : Phone ℚ :=
  ((Phone.machine ℚ).step loadedOnce (.tap (.dish true 0 0))).getD loadedOnce

/-- The cart then holds a dish of the menu that is gone. -/
theorem Phone.cart_outlives_menu :
    (Phone.machine ℚ).AlongSteps Phone.Assumed {} lateResponse ∧
      ∃ p, (Phone.machine ℚ).run {} lateResponse = some p ∧ ¬ p.MenuKept := by
  have hrun : (Phone.machine ℚ).run {} lateResponse = some orderedOnce.served :=
    Machine.run_cons.mpr ⟨_, rfl, Machine.run_cons.mpr ⟨_, rfl, Machine.run_cons.mpr
      ⟨_, rfl, Machine.run_cons.mpr ⟨loadedOnce, Phone.step_respond_oneDish (Nat.succ_ne_zero _),
        Machine.run_cons.mpr ⟨orderedOnce, rfl, Machine.run_cons.mpr
          ⟨_, Phone.step_respond_oneDish (Nat.succ_ne_zero _), rfl⟩⟩⟩⟩⟩⟩
  refine ⟨lateResponse_assumed, _, hrun, fun hkept => ?_⟩
  have hcount := (hkept (Option.some_ne_none _)).2
  exact absurd hcount (by decide)

end MachineTest
