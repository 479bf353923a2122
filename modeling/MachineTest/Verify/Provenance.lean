import MachineTest.Verify.Fetching
import MachineTest.Verify.MenuSchema
import MachineTest.Verify.Mocky

/-! # Where a bill comes from

Every dish that the pages show, count or bill is written in a body that was accepted in this
process: in the body of its own fetch and at its own place, with the id, the name, the price and the
calories that the row shows. -/

namespace MachineTest

/-- The element that was decoded into a given element. -/
theorem forall₂_getElem? {α β : Type} {R : α → β → Prop} {xs : List α} {ys : List β}
    (h : List.Forall₂ R xs ys) {i : ℕ} {y : β} (hy : ys[i]? = some y) :
    ∃ x, xs[i]? = some x ∧ R x y := by
  induction h generalizing i with
  | nil => cases hy
  | cons hxy _ ih =>
    cases i with
    | zero =>
      cases hy
      exact ⟨_, rfl, hxy⟩
    | succ i => exact ih hy

/-! ## Dishes of a document -/

section
variable {D : Type}

/-- `[menu]["table_menu_list"][category]["category_dishes"][index]` -/
def Json.dishAt (tree : Json D) (menu category index : ℕ) : Option (Json D) := do
  let menu ← tree.elems[menu]?
  let category ← (menu.field "table_menu_list").elems[category]?
  (category.field "category_dishes").elems[index]?

variable [IntCast D]

/-- A dish object with the fields of a record of a document. -/
structure DishRef.ReadFrom (json : List (String × Json D)) (d : DishRef D) : Prop where
  dishId : (Json.get json "dish_id").asString = .ok d.dishId
  dishName : (Json.get json "dish_name").asString = .ok d.dishName
  dishPrice : (Json.get json "dish_price").toDouble = .ok d.dishPrice
  dishCalories : (Json.get json "dish_calories").asDouble = .ok d.dishCalories
  customizations : d.customizations =
    if (Json.get json "addonCat").isNull then none
    else some !(Json.get json "addonCat").elems.isEmpty

/-- The document has the dish at the place of the object. -/
def DishRef.WrittenIn (tree : Json D) (d : DishRef D) : Prop :=
  ∃ json, tree.dishAt d.menu d.category d.index = some (.object json) ∧ d.ReadFrom json

theorem CategoryDish.readFrom_object [Zero D] {json : List (String × Json D)}
    {dish : CategoryDish D} (h : dish.ReadFrom json) (fetch menu category index : ℕ) :
    (dish.object fetch menu category index).ReadFrom json where
  dishId := h.dishId
  dishName := h.dishName
  dishPrice := by
    obtain ⟨price, hprice, hsome⟩ := h.dishPrice
    rw [hprice, CategoryDish.object, hsome, Option.getD_some]
  dishCalories := h.dishCalories
  customizations := by
    rcases h.addonCat with ⟨hnull, hnone⟩ | ⟨elems, addonCat, helems, hsome, hall⟩
    · rw [hnull, CategoryDish.object, hnone]
      rfl
    · have hlength := hall.length_eq
      rw [helems, CategoryDish.object, hsome]
      cases elems with
      | nil => cases hall; rfl
      | cons x elems => cases hall; rfl

/-- The dishes on display after a body are written in it. -/
theorem Memory.writtenIn_of_mem_install [Zero D] {tree : Json D}
    {menus : List (MenuModel (CategoryDish D))} (hmenus : menuModelOfTree tree = .ok menus)
    {s : Memory D} {d : DishRef D} (hd : d ∈ (s.install menus).dishes) : d.WrittenIn tree := by
  obtain ⟨elems, rfl, hall⟩ := Json.mapList_eq_ok.mp hmenus
  cases hall with
  | nil => cases hd
  | @cons x menu xs menus hmenu _ =>
    rw [Memory.dishes_install] at hd
    obtain ⟨_, hcategory, hd⟩ := List.mem_flatMap.mp hd
    obtain ⟨j, hj, rfl⟩ := List.mem_mapIdx.mp hcategory
    obtain ⟨k, hk, rfl⟩ := List.mem_mapIdx.mp hd
    obtain ⟨menuJson, rfl, hmenuRead⟩ := MenuModel.fromJson_iff.mp hmenu
    obtain ⟨categories, hcategories, hall⟩ := hmenuRead.tableMenuList
    obtain ⟨categoryJson, hcategoryAt, hcategory⟩ :=
      forall₂_getElem? hall (List.getElem?_eq_getElem hj)
    obtain ⟨categoryJson, rfl, hcategoryRead⟩ := TableMenuList.fromJson_iff.mp hcategory
    obtain ⟨dishes, hdishes, hall⟩ := hcategoryRead.categoryDishes
    obtain ⟨dishJson, hdishAt, hdish⟩ := forall₂_getElem? hall (List.getElem?_eq_getElem hk)
    obtain ⟨dishJson, rfl, hdishRead⟩ := CategoryDish.fromJson_iff.mp hdish
    refine ⟨dishJson, ?_, CategoryDish.readFrom_object hdishRead ..⟩
    refine Option.bind_eq_some_iff.mpr ⟨.object categoryJson, ?_, ?_⟩
    · change (Json.get menuJson "table_menu_list").elems[j]? = _
      rw [hcategories]
      exact hcategoryAt
    · change (Json.get categoryJson "category_dishes").elems[k]? = _
      rw [hdishes]
      exact hdishAt

end

namespace Mocky

section
variable {D : Type} [IntCast D]

/-- The document that the event brings, if the decoder accepts it. -/
def Event.accepted : Event D → Option (Json D)
  | .respond (.body (.ok tree)) => if (menuModelOfTree tree).isOk then some tree else none
  | _ => none

/-- The documents that were accepted, in the order in which they arrived. -/
def bodies (events : List (Event D)) : List (Json D) := events.filterMap Event.accepted

theorem bodies_append (past : List (Event D)) (e : Event D) :
    bodies (past ++ [e]) = bodies past ++ e.accepted.toList := by
  rw [bodies, List.filterMap_append, List.filterMap_cons, List.filterMap_nil, bodies]
  cases e.accepted <;> rfl

/-- The body of the dish's fetch has the dish at its place. -/
def Sourced (bodies : List (Json D)) (d : DishRef D) : Prop :=
  ∃ tree, bodies[d.fetch]? = some tree ∧ d.WrittenIn tree

theorem Sourced.append {trees : List (Json D)} {d : DishRef D} (h : Sourced trees d)
    (trees' : List (Json D)) : Sourced (trees ++ trees') d := by
  obtain ⟨tree, htree, hwritten⟩ := h
  have hlt : d.fetch < trees.length := (List.getElem?_eq_some_iff.mp htree).1
  exact ⟨tree, (List.getElem?_append_left hlt).trans htree, hwritten⟩

theorem Sourced.fetch_lt {trees : List (Json D)} {d : DishRef D} (h : Sourced trees d) :
    d.fetch < trees.length := by
  obtain ⟨tree, htree, _⟩ := h
  exact (List.getElem?_eq_some_iff.mp htree).1

theorem accepted_of_bind {tree : Except DartError (Json D)}
    {menus : List (MenuModel (CategoryDish D))} (h : tree.bind menuModelOfTree = .ok menus) :
    ∃ body, tree = .ok body ∧ menuModelOfTree body = .ok menus ∧
      (Event.respond (.body tree)).accepted = some body := by
  cases tree with
  | error e => cases h
  | ok body =>
    have hmenus : menuModelOfTree body = .ok menus := h
    refine ⟨body, rfl, hmenus, ?_⟩
    rw [Event.accepted, hmenus]
    rfl

theorem accepted_eq_none {response : Response D}
    (h : ∀ tree menus, response = .body tree → tree.bind menuModelOfTree ≠ .ok menus) :
    (Event.respond response).accepted = none := by
  cases response with
  | socketException | otherException => rfl
  | body tree =>
    cases tree with
    | error e => rfl
    | ok tree =>
      rw [Event.accepted]
      cases hmenus : menuModelOfTree tree with
      | ok menus => exact (h _ menus rfl hmenus).elim
      | error e => rfl

end

section
variable {D : Type} [DecidableEq D] [DartDouble D] [Zero D] [Add D] [Sub D] [Mul D] [IntCast D]
variable {s s' : Mocky D} {e : Event D}

theorem Step.fetches (h : s.Step e s') :
    s'.memory.fetches = s.memory.fetches + e.accepted.toList.length := by
  cases h with
  | created =>
    dsimp only
    rw [createHomePage_memory]
    rfl
  | back | cleared => exact congrArg Memory.fetches (leave_memory s _)
  | @respond response _ =>
    rw [respond_memory]
    rcases HomePageController.fetchAPIDataResume_cases response s.memory with
      ⟨tree, menus, rfl, hmenus, hs⟩ | ⟨hnone, isLoading, hs⟩
    · obtain ⟨body, _, _, haccepted⟩ := accepted_of_bind hmenus
      rw [hs, haccepted]
      rfl
    · rw [hs, accepted_eq_none hnone]
      rfl
  | session | verificationCompleted | opened | placeOrder | ordered | logout => rfl
  | dish | card | row | mediaQuery | answersNext | dispose => rfl

/-- The menus are numbered in the order of their bodies, and every dish has its body. -/
structure SourcedBy (past : List (Event D)) (s : Mocky D) : Prop where
  fetches : s.memory.fetches = (bodies past).length
  known : s.Known (Sourced (bodies past))

theorem SourcedBy.step {past : List (Event D)} (h : SourcedBy past s) (hstep : s.Step e s') :
    SourcedBy (past ++ [e]) s' := by
  refine ⟨?_, ?_⟩
  · rw [hstep.fetches, h.fetches, bodies_append, List.length_append]
  · rw [bodies_append]
    refine (h.known.imp fun d hd => hd.append e.accepted.toList).step ?_ hstep
    intro tree menus hbody hmenus d hd
    obtain ⟨body, rfl, hdecode, haccepted⟩ := accepted_of_bind hmenus
    have hfetch : d.fetch = (bodies past).length :=
      (Memory.fetch_of_mem_install hd).trans h.fetches
    refine ⟨body, ?_, Memory.writtenIn_of_mem_install hdecode hd⟩
    rw [hbody, haccepted, hfetch]
    exact List.getElem?_concat_length

omit [DecidableEq D] [Zero D] [Add D] [Sub D] [Mul D] in
theorem sourcedBy_runApp (storage : FlutterSecureStorage) (currentUser : Option User) :
    SourcedBy [] (runApp storage currentUser : Mocky D) where
  fetches := runApp_cases (P := fun s => s.memory.fetches = 0) (fun _ _ => rfl) fun _ _ => rfl
  known := known_runApp _ storage currentUser

theorem sourcedBy_run {storage : FlutterSecureStorage} {currentUser : Option User}
    {events : List (Event D)}
    (hrun : (machine D).run (runApp storage currentUser) events = some s) : SourcedBy events s :=
  Machine.run_history (fun _ _ _ _ h hstep => h.step (step_sound hstep))
    (sourcedBy_runApp storage currentUser) hrun

/-- **The source of a bill.** In every state of every run, the cart holds dishes that were built as
cards and that stand in the accepted body of their fetch. So every row of an open checkout page can
be built, and shows the id, the name, the price and the calories of such a dish. -/
theorem rows_sourced {storage : FlutterSecureStorage} {currentUser : Option User}
    {events : List (Event D)}
    (hrun : (machine D).run (runApp storage currentUser) events = some s) :
    (∀ d ∈ s.memory.cartData.dishes, Sourced (bodies events) d ∧ d.built = true) ∧
    ∀ page ∈ s.checkoutPages, page.builds = true ∧ ∀ row ∈ CheckoutPage.menuList page.built,
      ∃ d ∈ page.built.cartData.dishes, row = CheckoutPage.cardContent page.built d ∧
        row.dishCalories ≠ none ∧ Sourced (bodies events) d := by
  have hknown := (sourcedBy_run hrun).known
  refine ⟨hknown.cart, fun page hpage => ⟨?_, fun row hrow => ?_⟩⟩
  · refine List.all_eq_true.mpr fun d hd => ?_
    exact (Bool.and_eq_true_iff.mp (hknown.rows page hpage d hd).2).1
  · rw [menuList_eq] at hrow
    obtain ⟨d, hd, rfl⟩ := List.mem_map.mp hrow
    obtain ⟨hsourced, hbuilt⟩ := hknown.rows page hpage d hd
    refine ⟨d, hd, rfl, ?_, hsourced⟩
    exact Option.isSome_iff_ne_none.mp (Bool.and_eq_true_iff.mp hbuilt).1

end

/-- A response with a body that is accepted. -/
theorem respond_ok {D : Type} [Zero D] [IntCast D] {tree : Except DartError (Json D)}
    {menus : List (MenuModel (CategoryDish D))} (h : tree.bind menuModelOfTree = .ok menus)
    (s : Mocky D) : s.respond (.body tree) =
      callSetState { s with
        memory := { s.memory.install menus with isLoading := false }
        outstanding := s.outstanding - 1 } := by
  rw [respond, Response.clears, h, HomePageController.fetchAPIDataResume_ok h]
  rfl

/-- The home page of a user who is still logged in, with a menu of one dish. -/
def homeOfOneDish : Mocky ℚ :=
  let s : Mocky ℚ := runApp { userToken := some ⟨⟨"alice", .google⟩, 0⟩ } (some ⟨"alice", .google⟩)
  callSetState { s with
    memory := { s.memory.install [menuOf [dishOf (some "1") 10]] with isLoading := false }
    outstanding := s.outstanding - 1 }

theorem step_homeOfOneDish : (machine ℚ).step
    (runApp { userToken := some ⟨⟨"alice", .google⟩, 0⟩ } (some ⟨"alice", .google⟩))
    (.respond oneDish) = some homeOfOneDish := congrArg some (respond_ok decode_oneDish _)

theorem run_homeOfOneDish (events : List (Event ℚ)) :
    (machine ℚ).run
        (runApp { userToken := some ⟨⟨"alice", .google⟩, 0⟩ } (some ⟨"alice", .google⟩))
        (.respond oneDish :: events) = (machine ℚ).run homeOfOneDish events := by
  rw [Machine.run, step_homeOfOneDish]
  rfl

theorem rows_sourced_oneDish : ∃ s page, (machine ℚ).run
      (runApp { userToken := some ⟨⟨"alice", .google⟩, 0⟩ } (some ⟨"alice", .google⟩))
      [.respond oneDish, .dish true 0 0, .app .badgeOntap] = some s ∧
    s.checkoutPages = [page] ∧ page.builds = true := by
  obtain ⟨s, page, hrun, hpage⟩ : ∃ s page, (machine ℚ).run homeOfOneDish
      [.dish true 0 0, .app .badgeOntap] = some s ∧ s.checkoutPages = [page] := ⟨_, _, rfl, rfl⟩
  rw [← run_homeOfOneDish] at hrun
  refine ⟨s, page, hrun, hpage, ((rows_sourced hrun).2 page ?_).1⟩
  rw [hpage]
  exact List.mem_singleton_self page

end Mocky
end MachineTest
