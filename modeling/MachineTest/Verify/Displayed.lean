import MachineTest.Verify.OnScreen

/-! # What the home page shows

The menu and the loading flag are written by a new home page and by the responses, and by nothing
else. So what the home page shows is told by the events since it was created: the last body that was
accepted, with the counts of now. -/

namespace MachineTest

theorem map_mapIdx {α β γ : Type} (f : ℕ → α → β) (g : β → γ) (l : List α) :
    (l.mapIdx f).map g = l.mapIdx fun i a => g (f i a) := by
  rw [List.mapIdx_eq_zipIdx_map, List.mapIdx_eq_zipIdx_map, List.map_map]
  rfl

namespace Mocky

section
variable {D : Type} [IntCast D]

/-- What an event writes to `menuModel`. A new home page writes null. -/
def Event.menuModel : Event D → Option (Option (List (MenuModel (CategoryDish D))))
  | .app (.signedIn _ true) => some none
  | .respond (.body tree) => ((tree.bind menuModelOfTree).toOption).map some
  | _ => none

/-- What an event writes to `isLoading`. -/
def Event.isLoading [Zero D] : Event D → Option Bool
  | .app (.signedIn _ true) => some true
  | .respond response => if response.clears then some false else none
  | _ => none

/-- The body that was accepted last, if no home page was created after it. -/
def lastMenus (events : List (Event D)) : Option (List (MenuModel (CategoryDish D))) :=
  (events.filterMap Event.menuModel).getLast?.join

theorem lastMenus_append (past : List (Event D)) (e : Event D) :
    lastMenus (past ++ [e]) = e.menuModel.getD (lastMenus past) := by
  rw [lastMenus, List.filterMap_append]
  cases hwritten : e.menuModel with
  | none =>
    rw [List.filterMap_cons_none hwritten, List.filterMap_nil, List.append_nil]
    rfl
  | some menus =>
    rw [List.filterMap_cons_some hwritten, List.filterMap_nil, List.getLast?_concat]
    rfl

theorem Event.menuModel_of_usesPage [Zero D] {e : MockAPP.Event} (h : e.usesPage = false) :
    (Event.app e : Event D).menuModel = none ∧ (Event.app e : Event D).isLoading = none := by
  cases e with
  | signedIn user mounted =>
    cases mounted with
    | true => cases h
    | false => exact ⟨rfl, rfl⟩
  | badgeOntap | placeOrder | logout => cases h
  | _ => exact ⟨rfl, rfl⟩

theorem Event.menuModel_of_ok {tree : Except DartError (Json D)}
    {menus : List (MenuModel (CategoryDish D))} (h : tree.bind menuModelOfTree = .ok menus) :
    (Event.respond (.body tree)).menuModel = some (some menus) := by
  rw [Event.menuModel, h]
  rfl

theorem Event.isLoading_of_ok [Zero D] {tree : Except DartError (Json D)}
    {menus : List (MenuModel (CategoryDish D))} (h : tree.bind menuModelOfTree = .ok menus) :
    (Event.respond (.body tree)).isLoading = some false := by
  rw [Event.isLoading, Response.clears, h]
  rfl

theorem isLoading_fetchAPIDataResume [Zero D] (response : Response D) (s : Memory D) :
    (HomePageController.fetchAPIDataResume response s).isLoading =
      ((Event.respond response).isLoading).getD s.isLoading := by
  rw [Event.isLoading, HomePageController.isLoading_fetchAPIDataResume]
  cases response.clears with
  | true => exact Bool.and_false _
  | false => exact Bool.and_true _

end

section
variable {D : Type} [DecidableEq D] [DartDouble D] [Zero D] [Add D] [Sub D] [Mul D] [IntCast D]
variable {s s' : Mocky D} {e : Event D}

/-- A step writes what its event says. -/
theorem Step.isLoading (h : s.Step e s') :
    s'.memory.isLoading = e.isLoading.getD s.memory.isLoading := by
  cases h with
  | session _ huses _ _ => rw [(Event.menuModel_of_usesPage huses).2]; rfl
  | created =>
    dsimp only
    rw [createHomePage_memory]
    rfl
  | back | cleared =>
    dsimp only
    rw [leave_memory]
    rfl
  | respond _ => rw [respond_memory, isLoading_fetchAPIDataResume]
  | verificationCompleted | opened | placeOrder | ordered | logout => rfl
  | dish | card | row | mediaQuery | answersNext | dispose => rfl

/-- Once there is a home page, the menu of the memory is the last one, made of the objects of the
last fetch. -/
def Shows (past : List (Event D)) (s : Mocky D) : Prop :=
  s.created ≠ 0 → s.memory.menuModel = (lastMenus past).map fun menus =>
    menus.mapIdx fun i menu => menu.objects (s.memory.fetches - 1) i

omit [DecidableEq D] [DartDouble D] [Add D] [Sub D] [Mul D] in
theorem Shows.of_eq {past : List (Event D)} (h : Shows past s) (hnone : e.menuModel = none)
    (hcreated : s'.created = s.created) (hmenu : s'.memory.menuModel = s.memory.menuModel)
    (hfetches : s'.memory.fetches = s.memory.fetches) : Shows (past ++ [e]) s' := by
  rw [Shows, lastMenus_append, hnone, hcreated, hmenu, hfetches]
  exact h

theorem Shows.step {past : List (Event D)} (h : Shows past s) (hstep : s.Step e s') :
    Shows (past ++ [e]) s' := by
  cases hstep with
  | session _ huses _ _ => exact h.of_eq (Event.menuModel_of_usesPage huses).1 rfl rfl rfl
  | created =>
    rw [Shows, lastMenus_append, createHomePage_memory]
    exact fun _ => rfl
  | back | cleared =>
    exact h.of_eq rfl (leave_created s _) (by rw [leave_memory]) (by rw [leave_memory])
  | @respond response _ =>
    rcases HomePageController.fetchAPIDataResume_cases response s.memory with
      ⟨tree, menus, rfl, hmenus, hs⟩ | ⟨hrejected, isLoading, hs⟩
    · rw [Shows, lastMenus_append, Event.menuModel_of_ok hmenus, respond_memory, hs]
      exact fun _ => rfl
    · have hnone : (Event.respond response).menuModel = none := by
        cases response with
        | socketException | otherException => rfl
        | body tree =>
          rw [Event.menuModel]
          cases hmenus : tree.bind menuModelOfTree with
          | ok menus => exact (hrejected tree menus rfl hmenus).elim
          | error e => rfl
      exact h.of_eq hnone (respond_created s response) (by rw [respond_memory, hs])
        (by rw [respond_memory, hs])
  | verificationCompleted | opened | placeOrder | ordered | logout => exact h.of_eq rfl rfl rfl rfl
  | dish | card | row | mediaQuery => exact h.of_eq rfl rfl rfl rfl
  | answersNext | dispose => exact h.of_eq rfl rfl rfl rfl

/-- The start of the app has not decoded a body. -/
theorem shows_run {storage : FlutterSecureStorage} {currentUser : Option User}
    {events : List (Event D)}
    (hrun : (machine D).run (runApp storage currentUser) events = some s) : Shows events s :=
  Machine.run_history (fun _ _ _ _ h hstep => h.step (step_sound hstep))
    (runApp_cases (P := Shows []) (fun _ _ _ => rfl) fun _ _ h => (h rfl).elim) hrun

theorem isLoading_run {storage : FlutterSecureStorage} {currentUser : Option User}
    {events : List (Event D)}
    (hrun : (machine D).run (runApp storage currentUser) events = some s) :
    s.memory.isLoading = ((events.filterMap Event.isLoading).getLast?).getD true := by
  have hstart : (runApp storage currentUser : Mocky D).memory.isLoading = true :=
    runApp_cases (P := fun s => s.memory.isLoading = true) (fun _ _ => rfl) fun _ _ => rfl
  have hwritten : ∀ (s : Mocky D) e s', (machine D).step s e = some s' →
      some s'.memory.isLoading = (Event.isLoading e).or (some s.memory.isLoading) :=
    fun s e s' hstep => by
      rw [(step_sound hstep).isLoading, Option.or_some]
  have hlast := Machine.run_register hwritten hrun
  rw [hstart, Option.or_some] at hlast
  exact Option.some.inj hlast

/-- **The home page.** When the home page that was created last is on top, its menu is the body that
was accepted last since it was created, in new objects, whichever page asked for it. Its loading
flag was cleared by the last event that wrote it. Its tabs are the categories of the first
restaurant, and each card shows the dish at its place with the count of now. -/
theorem page_shows {storage : FlutterSecureStorage} {currentUser : Option User}
    {events : List (Event D)}
    (hrun : (machine D).run (runApp storage currentUser) events = some s) {page : BuiltHomePage D}
    (hroute : s.app.routes.head? = some .homePage) (hpage : s.homePages.head? = some page)
    (hlast : page.serial + 1 = s.created) :
    page.built.menuModel = (lastMenus events).map (fun menus =>
      menus.mapIdx fun i menu => menu.objects ((bodies events).length - 1) i) ∧
    page.built.isLoading = ((events.filterMap Event.isLoading).getLast?).getD true ∧
    HomePage.tabbarView page.built = ((lastMenus events).bind List.head?).elim [] fun menu =>
      menu.tableMenuList.mapIdx fun i category => category.categoryDishes.mapIdx fun j dish =>
        HomePage.viewCardType s.memory (dish.object ((bodies events).length - 1) 0 i j) := by
  obtain ⟨_, hcurrent⟩ := upToDate_run hrun
  have hbuilt : page.built = s.memory :=
    hcurrent.home (topPage_of_head? rfl hroute) page hpage hlast
  have hmenu := shows_run hrun (hlast ▸ Nat.succ_ne_zero _)
  rw [(sourcedBy_run hrun).fetches] at hmenu
  rw [hbuilt]
  refine ⟨hmenu, isLoading_run hrun, ?_⟩
  rw [HomePage.tabbarView, Singleton.categories, hmenu]
  cases lastMenus events with
  | none => rfl
  | some menus =>
    cases menus with
    | nil => rfl
    | cons menu menus =>
      simp [MenuModel.objects, List.mapIdx_cons, map_mapIdx]

end

theorem lastMenus_oneDish : lastMenus [.respond oneDish, .dish true 0 0] =
    some [menuOf [dishOf (some "1") (10 : ℚ)]] := by
  rw [lastMenus, oneDish, List.filterMap_cons_some (Event.menuModel_of_ok decode_oneDish)]
  rfl

theorem length_bodies_oneDish : (bodies [.respond oneDish, .dish true 0 0]).length = 1 := by
  have haccepted : (Event.respond oneDish).accepted =
      some (menuModelTree [menuOf [dishOf (some "1") (10 : ℚ)]]) :=
    if_pos (congrArg Except.isOk decode_oneDish)
  rw [bodies, List.filterMap_cons_some haccepted]
  rfl

/-- One piece of the dish of the only tab. -/
theorem page_shows_oneDish : ∃ s page, (machine ℚ).run
      (runApp { userToken := some ⟨⟨"alice", .google⟩, 0⟩ } (some ⟨"alice", .google⟩))
      [.respond oneDish, .dish true 0 0] = some s ∧ s.homePages.head? = some page ∧
    page.built.menuModel = some [(menuOf [dishOf (some "1") 10]).objects 0 0] ∧
    page.built.isLoading = false ∧
    HomePage.tabbarView page.built =
      [[HomePage.viewCardType s.memory ((dishOf (some "1") 10).object 0 0 0 0)]] ∧
    (HomePage.viewCardType s.memory ((dishOf (some "1") 10).object 0 0 0 0)).map
      Card.dishOrdeCount = some 1 := by
  obtain ⟨s, page, hrun, hroute, hpage, hlast, hcard⟩ : ∃ s page,
      (machine ℚ).run homeOfOneDish [.dish true 0 0] = some s ∧
      s.app.routes.head? = some .homePage ∧ s.homePages.head? = some page ∧
      page.serial + 1 = s.created ∧
      (HomePage.viewCardType s.memory ((dishOf (some "1") 10).object 0 0 0 0)).map
        Card.dishOrdeCount = some 1 := ⟨_, _, rfl, rfl, rfl, rfl, by decide +kernel⟩
  rw [← run_homeOfOneDish] at hrun
  have hshows := page_shows hrun hroute hpage hlast
  rw [lastMenus_oneDish, length_bodies_oneDish, oneDish,
    List.filterMap_cons_some (Event.isLoading_of_ok decode_oneDish)] at hshows
  exact ⟨s, page, hrun, hpage, hshows.1, hshows.2.1, hshows.2.2, hcard⟩

end Mocky
end MachineTest
