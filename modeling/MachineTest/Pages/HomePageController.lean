import MachineTest.Model.SingleTonModel

/-! # The controller of the home page

`fetchAPIData` is cut at its `await`: what runs when the page is created, and what runs when the
request completes. `storeFirebaseToken` and `removeFirebaseToken` are cut at every point where
another call can run in between (`TokenCall`). -/

namespace MachineTest

variable {D : Type}

/-! ## The menu -/

/-- How the request of `getDataFunction` ends. A `SocketException` is caught; any other exception
passes through. `json.decode` may find that a body is not JSON. -/
inductive Response (D : Type) where
  | socketException
  | otherException
  | body (tree : Except DartError (Json D))

/-- After the response `fetchAPIData` clears `isLoading` and calls `callSetState`. -/
def Response.clears [Zero D] [IntCast D] : Response D → Bool
  | .socketException => true
  | .otherException => false
  | .body tree => (tree.bind menuModelOfTree).isOk

/-- The assignment of a decoded body to `menuModel`, whose dish objects are new and start at 0. -/
def Memory.install [Zero D] (menus : List (MenuModel (CategoryDish D))) (s : Memory D) :
    Memory D :=
  { s with
    menuModel := some (menus.mapIdx fun i menu => menu.objects s.fetches i)
    dishOrdeCount := fun d => if d.fetch = s.fetches then 0 else s.dishOrdeCount d
    fetches := s.fetches + 1 }

namespace HomePageController

/-- `fetchAPIData` up to its `await`. -/
def fetchAPIData (s : Memory D) : Memory D :=
  { s with isLoading := true, menuModel := none, cartCount := 0 }

/-- `fetchAPIData` after its `await`. An exception leaves it before `isLoading` is cleared. -/
def fetchAPIDataResume [Zero D] [IntCast D] : Response D → Memory D → Memory D
  | .socketException, s => { s with isLoading := false }
  | .otherException, s => s
  | .body tree, s =>
    match tree.bind menuModelOfTree with
    | .ok menus => { s.install menus with isLoading := false }
    | .error _ => s

theorem fetchAPIDataResume_ok [Zero D] [IntCast D] {tree : Except DartError (Json D)}
    {menus : List (MenuModel (CategoryDish D))} (h : tree.bind menuModelOfTree = .ok menus)
    (s : Memory D) :
    fetchAPIDataResume (.body tree) s = { s.install menus with isLoading := false } := by
  rw [fetchAPIDataResume, h]

/-- The two exits that clear the flag are those of `Response.clears`. -/
theorem isLoading_fetchAPIDataResume [Zero D] [IntCast D] (response : Response D) (s : Memory D) :
    (fetchAPIDataResume response s).isLoading = (s.isLoading && !response.clears) := by
  cases response with
  | socketException => exact (Bool.and_false _).symm
  | otherException => exact (Bool.and_true _).symm
  | body tree =>
    cases hmenus : tree.bind menuModelOfTree with
    | ok menus =>
      rw [fetchAPIDataResume_ok hmenus, Response.clears, hmenus]
      exact (Bool.and_false _).symm
    | error e =>
      rw [fetchAPIDataResume, Response.clears, hmenus]
      exact (Bool.and_true _).symm

end HomePageController

section
variable [Zero D]

/-- Two places of a menu hold two objects. -/
theorem MenuModel.nodup_objects (fetch i : ℕ) (menu : MenuModel (CategoryDish D)) :
    ((menu.objects fetch i).tableMenuList.flatMap TableMenuList.categoryDishes).Nodup := by
  refine List.nodup_flatMap.mpr ⟨fun category hcategory => ?_, ?_⟩
  · obtain ⟨j, hj, rfl⟩ := List.mem_mapIdx.mp hcategory
    refine List.Nodup.of_map DishRef.index ?_
    rw [List.mapIdx_eq_zipIdx_map, List.map_map]
    change (List.map Prod.snd _).Nodup
    rw [List.zipIdx_map_snd]
    exact List.nodup_range'
  · refine List.pairwise_iff_getElem.mpr fun j j' hj hj' hlt d hd hd' => ?_
    simp only [MenuModel.objects, List.getElem_mapIdx] at hd hd'
    obtain ⟨_, _, rfl⟩ := List.mem_mapIdx.mp hd
    obtain ⟨_, _, h⟩ := List.mem_mapIdx.mp hd'
    have hcategory : j' = j := congrArg DishRef.category h
    omega

theorem MenuModel.fetch_objects {fetch i : ℕ} {menu : MenuModel (CategoryDish D)} {d : DishRef D}
    (hd : d ∈ (menu.objects fetch i).tableMenuList.flatMap TableMenuList.categoryDishes) :
    d.fetch = fetch := by
  obtain ⟨category, hcategory, hd⟩ := List.mem_flatMap.mp hd
  obtain ⟨j, hj, rfl⟩ := List.mem_mapIdx.mp hcategory
  obtain ⟨k, hk, rfl⟩ := List.mem_mapIdx.mp hd
  rfl

/-- The dishes on display after a fetch are those of the first restaurant of the body. -/
theorem Memory.dishes_install (menu : MenuModel (CategoryDish D))
    (menus : List (MenuModel (CategoryDish D))) (s : Memory D) :
    (s.install (menu :: menus)).dishes =
      (menu.objects s.fetches 0).tableMenuList.flatMap TableMenuList.categoryDishes := by
  simp [Singleton.dishes, Singleton.categories, Memory.install, List.mapIdx_cons]

theorem Memory.nodup_dishes_install (menus : List (MenuModel (CategoryDish D))) (s : Memory D) :
    (s.install menus).dishes.Nodup := by
  cases menus with
  | nil => exact List.nodup_nil
  | cons menu menus =>
    rw [Memory.dishes_install]
    exact MenuModel.nodup_objects _ _ menu

/-- The objects of a new menu belong to its fetch. -/
theorem Memory.fetch_of_mem_install {menus : List (MenuModel (CategoryDish D))} {s : Memory D}
    {d : DishRef D} (hd : d ∈ (s.install menus).dishes) : d.fetch = s.fetches := by
  cases menus with
  | nil => cases hd
  | cons menu menus =>
    rw [Memory.dishes_install] at hd
    exact MenuModel.fetch_objects hd

theorem Memory.install_count_eq_zero {menus : List (MenuModel (CategoryDish D))} {s : Memory D}
    {d : DishRef D} (hd : d ∈ (s.install menus).dishes) : (s.install menus).dishOrdeCount d = 0 :=
  if_pos (Memory.fetch_of_mem_install hd)

end

/-! ## The session -/

/-- The two keys of the secure storage. -/
structure FlutterSecureStorage where
  userToken : Option Token := none
  isLoginUsingPhonenumber : Option String := none
deriving DecidableEq

/-- `bool.toString()` -/
def boolToString (b : Bool) : String := if b then "true" else "false"

/-- What a token call reads and writes. -/
structure SessionStore where
  session : Session := {}
  storage : FlutterSecureStorage := {}
deriving DecidableEq

/-- A call of `storeFirebaseToken(user)` or of `removeFirebaseToken(context)`, by what it does when
it is next scheduled. A storage operation takes effect where the call waits for it. -/
inductive TokenCall where
  /-- `user.getIdToken()` answers. -/
  | getIdToken (user : User)
  /-- `storage.write(key: 'userToken', value: token)` takes effect. -/
  | writeUserToken (token : Token)
  /-- The value for the second write is read. -/
  | readIsLogin (token : Token)
  /-- `storage.write(key: 'isLoginUsingPhonenumber', value: value)` takes effect. -/
  | writeIsLogin (token : Token) (value : String)
  /-- `Singleton.singleton.userToken = token` -/
  | assignUserToken (token : Token)
  /-- `storage.delete(key: 'userToken')` takes effect. -/
  | deleteUserToken
  /-- `storage.delete(key: 'isLoginUsingPhonenumber')` takes effect. -/
  | deleteIsLogin
  /-- `Singleton.singleton.userToken = null`, and the login page replaces the page on top. -/
  | clearUserToken
deriving DecidableEq

namespace HomePageController

def storeFirebaseToken (user : User) : TokenCall := .getIdToken user

def removeFirebaseToken : TokenCall := .deleteUserToken

end HomePageController

/-- One step of a call: the store after it, and the rest of the call. `serial` tells the tokens of
one user apart. -/
def TokenCall.resume (serial : ℕ) : TokenCall → SessionStore → SessionStore × Option TokenCall
  | .getIdToken user, s => (s, some (.writeUserToken ⟨user, serial⟩))
  | .writeUserToken token, s =>
    ({ s with storage.userToken := some token }, some (.readIsLogin token))
  | .readIsLogin token, s =>
    (s, some (.writeIsLogin token (boolToString s.session.isLoginUsingPhonenumber)))
  | .writeIsLogin token value, s =>
    ({ s with storage.isLoginUsingPhonenumber := some value }, some (.assignUserToken token))
  | .assignUserToken token, s => ({ s with session.userToken := some token }, none)
  | .deleteUserToken, s => ({ s with storage.userToken := none }, some .deleteIsLogin)
  | .deleteIsLogin, s =>
    ({ s with storage.isLoginUsingPhonenumber := none }, some .clearUserToken)
  | .clearUserToken, s => ({ s with session.userToken := none }, none)

end MachineTest
