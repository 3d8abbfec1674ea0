import FollowGraph.Http.Decision

/-!
# What stands against a request

`objections` lists everything that is wrong with a request to one of the endpoints: what it asks
for is of a wrong type, its body names no user or another one, there are no services, it has no
acting user. The order of the list is the order of precedence, and it is the same for all
endpoints, although their handlers check in orders of their own. `operationOf_checked` is the
result: the first objection is the rejection, and without one the endpoint's operation is chosen,
with the arguments that `Serves` says.

The handlers are put together from a few checks. `Checked` relates a check to the objections that
it raises and to what it finds out when there are none; it is closed under doing one check after
another (`Checked.bind`), so each handler is the list of its checks.
-/

set_option autoImplicit false

namespace FollowGraph.Http

/-! ## Kinds of endpoints -/

namespace Endpoint

/-- Whether an endpoint stands for a public operation. -/
def isOperation : Endpoint → Bool
  | .document | .health => false
  | _ => true

/-- Whether an endpoint acts for the user in the header. -/
def namesUser : Endpoint → Bool
  | .follow | .unfollow | .removeFollower | .block | .unblock | .blocked | .mutual
  | .searchFollowers | .searchFollowing | .suggestions | .interestSuggestions
  | .setInterests | .getInterests => true
  | _ => false

def takesPage : Endpoint → Bool
  | .followers | .following | .blocked | .searchFollowers | .searchFollowing | .suggestions
  | .interestSuggestions => true
  | _ => false

def takesQuery : Endpoint → Bool
  | .searchFollowers | .searchFollowing => true
  | _ => false

def takesNode : Endpoint → Bool
  | .createUser | .updateUser => true
  | _ => false

/-- Whether an endpoint takes one id both in its path and in the body. -/
def repeatsId : Endpoint → Bool
  | .updateUser => true
  | _ => false

end Endpoint

/-! ## Objections -/

/-- All errors go into one report. -/
def report : List FieldError → List Rejection
  | [] => []
  | errors => [.invalid errors]

/-- The parameters of a wrong type, in the order in which they are reported. -/
def queryErrors (e : Endpoint) (t : Target) : List FieldError :=
  (if e.takesQuery then errorsOf (textParameter t "q") else []) ++
    (if e.takesPage then
      errorsOf (integerParameter t "page" 0) ++ errorsOf (integerParameter t "limit" 20)
    else [])

/-- What is wrong with a body as a value of some type. -/
def bodyObjections {α : Type} (r : Request) (ofJson : Option Json → Except (List FieldError) α) :
    List Rejection :=
  match Body.read r.body with
  | .error .unreadable => [.unreadableBody]
  | .error (.invalid errors) => [.invalid errors]
  | .ok body =>
    match ofJson body with
    | .ok _ => []
    | .error errors => [.invalid errors]

def typeObjections (e : Endpoint) (r : Request) : List Rejection :=
  match e with
  | .createUser | .updateUser => bodyObjections r UserBody.ofJson
  | .setInterests => bodyObjections r interestsOfBody
  | _ => report (queryErrors e r.target)

/-- The user in a body, if it is one. -/
def Request.user? (r : Request) : Option UserBody :=
  match Body.read r.body with
  | .ok body => (UserBody.ofJson body).toOption
  | .error _ => none

/-- The id in a body is blank. -/
def blankObjections (r : Request) : List Rejection :=
  match r.user? with
  | none => []
  | some user => if user.userId.identifies then [] else [.refusedBody .blankUserId]

/-- The id in a body is not the one in the path. -/
def otherObjections (r : Request) (pathId : String) : List Rejection :=
  match r.user? with
  | none => []
  | some user => if user.userId = .str pathId then [] else [.idMismatch]

def Request.actor (r : Request) : String := Text.strip (r.user.getD "")

/-- Everything that is wrong with a request to an endpoint, what counts most first. -/
def objections (attached : Bool) (r : Request) (pathId : String) (e : Endpoint) :
    List Rejection :=
  typeObjections e r ++
    ((if e.takesNode then blankObjections r else []) ++
      ((if e.repeatsId then otherObjections r pathId else []) ++
        ((if attached then [] else [.noServices]) ++
          (if e.namesUser then if r.actor = "" then [.noUser] else [] else []))))

/-- Objections with some statuses, in that order. -/
def Ranked (statuses : List Int) (objections : List Rejection) : Prop :=
  (objections.map fun objection => objection.reply.status).Sublist statuses

theorem ranked_nil (statuses : List Int) : Ranked statuses [] := List.nil_sublist _

theorem Ranked.append {first second : List Rejection} {early late : List Int}
    (h : Ranked early first) (rest : Ranked late second) :
    Ranked (early ++ late) (first ++ second) := by
  unfold Ranked
  rw [List.map_append]
  exact List.Sublist.append h rest

theorem ranked_one (rejection : Rejection) : Ranked [rejection.reply.status] [rejection] :=
  List.Sublist.refl _

theorem Ranked.only {statuses : List Int} {list : List Rejection} (h : Ranked statuses list)
    (c : Prop) [Decidable c] : Ranked statuses (if c then list else []) := by
  split
  · exact h
  · exact ranked_nil _

theorem Ranked.unless {statuses : List Int} {list : List Rejection} (h : Ranked statuses list)
    (c : Prop) [Decidable c] : Ranked statuses (if c then [] else list) := by
  split
  · exact ranked_nil _
  · exact h

theorem ranked_report (errors : List FieldError) : Ranked [422] (report errors) := by
  cases errors with
  | nil => exact ranked_nil _
  | cons => exact ranked_one (.invalid _)

theorem ranked_bodyObjections {α : Type} {r : Request}
    (readable : Body.read r.body ≠ .error .unreadable)
    (ofJson : Option Json → Except (List FieldError) α) : Ranked [422] (bodyObjections r ofJson) := by
  unfold bodyObjections
  cases read : Body.read r.body with
  | error fault =>
    cases fault with
    | unreadable => exact absurd read readable
    | invalid errors => exact ranked_one (.invalid errors)
  | ok body =>
    dsimp only
    cases ofJson body with
    | ok => exact ranked_nil _
    | error errors => exact ranked_one (.invalid errors)

/-- The order of the objections is that of their statuses: wrong types, a blank id, the other id,
the services, and the acting user last. -/
theorem ranked_objections (attached : Bool) {r : Request} (pathId : String) (e : Endpoint)
    (readable : Body.read r.body ≠ .error .unreadable) :
    Ranked [422, 400, 400, 503, 401] (objections attached r pathId e) := by
  have types : Ranked [422] (typeObjections e r) := by
    unfold typeObjections
    split
    · exact ranked_bodyObjections readable _
    · exact ranked_bodyObjections readable _
    · exact ranked_bodyObjections readable _
    · exact ranked_report _
  have blank : Ranked [400] (blankObjections r) := by
    unfold blankObjections
    split
    · exact ranked_nil _
    · exact (ranked_one (.refusedBody .blankUserId)).unless _
  have other : Ranked [400] (otherObjections r pathId) := by
    unfold otherObjections
    split
    · exact ranked_nil _
    · exact (ranked_one .idMismatch).unless _
  exact types.append ((blank.only _).append ((other.only _).append
    (((ranked_one .noServices).unless _).append (((ranked_one .noUser).only _).only _))))

/-! ## Arguments -/

/-- The page and limit of a query, the first page of twenty by default. -/
structure Pages (t : Target) (page limit : Int) : Prop where
  page : integerParameter t "page" 0 = .ok page
  limit : integerParameter t "limit" 20 = .ok limit

/-- The user in a body as the services take it. -/
structure NodeIn (r : Request) (node : UserNode) : Prop where
  given : ∃ user, r.user? = some user ∧ user.toNode = .ok node

/-- The tags in a body. -/
def TagsIn (r : Request) (tags : List Json) : Prop :=
  ∃ body, Body.read r.body = .ok body ∧ interestsOfBody body = .ok tags

/-- The acting user is the text of the header without the blanks around it, and is not blank. -/
structure ActsAs (r : Request) (user : String) : Prop where
  stripped : user = r.actor
  filled : user ≠ ""

/-- The operation of each endpoint, with the arguments that the request gives it. -/
inductive Serves (r : Request) (pathId : String) : Endpoint → Operation → Prop
  | createUser {node : UserNode} (given : NodeIn r node) :
    Serves r pathId .createUser (.createUser node)
  | updateUser {node : UserNode} (given : NodeIn r node) (same : node.userId = .str pathId) :
    Serves r pathId .updateUser (.updateUser node)
  | getUser : Serves r pathId .getUser (.getUser pathId)
  | follow {user : String} (acting : ActsAs r user) :
    Serves r pathId .follow (.follow user pathId)
  | unfollow {user : String} (acting : ActsAs r user) :
    Serves r pathId .unfollow (.unfollow user pathId)
  | removeFollower {user : String} (acting : ActsAs r user) :
    Serves r pathId .removeFollower (.removeFollower user pathId)
  | block {user : String} (acting : ActsAs r user) :
    Serves r pathId .block (.block user pathId)
  | unblock {user : String} (acting : ActsAs r user) :
    Serves r pathId .unblock (.unblock user pathId)
  | followers {page limit : Int} (pages : Pages r.target page limit) :
    Serves r pathId .followers (.getFollowers pathId page limit)
  | following {page limit : Int} (pages : Pages r.target page limit) :
    Serves r pathId .following (.getFollowing pathId page limit)
  | blocked {user : String} {page limit : Int} (acting : ActsAs r user)
    (pages : Pages r.target page limit) : Serves r pathId .blocked (.getBlocked user page limit)
  | mutual {user : String} (acting : ActsAs r user) :
    Serves r pathId .mutual (.mutualFollowers user pathId)
  | searchFollowers {user query : String} {page limit : Int} (acting : ActsAs r user)
    (asked : textParameter r.target "q" = .ok query) (pages : Pages r.target page limit) :
    Serves r pathId .searchFollowers (.searchFollowers user query page limit)
  | searchFollowing {user query : String} {page limit : Int} (acting : ActsAs r user)
    (asked : textParameter r.target "q" = .ok query) (pages : Pages r.target page limit) :
    Serves r pathId .searchFollowing (.searchFollowing user query page limit)
  | suggestions {user : String} {page limit : Int} (acting : ActsAs r user)
    (pages : Pages r.target page limit) :
    Serves r pathId .suggestions (.getSuggestions user page limit)
  | interestSuggestions {user : String} {page limit : Int} (acting : ActsAs r user)
    (pages : Pages r.target page limit) :
    Serves r pathId .interestSuggestions (.getInterestSuggestions user page limit)
  | setInterests {user : String} {tags : List Json} (acting : ActsAs r user)
    (given : TagsIn r tags) : Serves r pathId .setInterests (.setInterests user tags)
  | getInterests {user : String} (acting : ActsAs r user) :
    Serves r pathId .getInterests (.getInterests user)

/-! ## Checks -/

/-- A check raises the first of some objections; when there are none, it finds out something. -/
def Checked {α : Type} (x : Except Rejection α) (objections : List Rejection) (P : α → Prop) :
    Prop :=
  match objections with
  | [] => ∃ a, x = .ok a ∧ P a
  | rejection :: _ => x = .error rejection

section Checks

variable {α β : Type} {x : Except Rejection α} {first second : List Rejection} {P : α → Prop}
  {Q : β → Prop} (attached : Bool) (r : Request) (t : Target)

theorem checked_pure {a : α} (ha : P a) : Checked (pure a : Except Rejection α) [] P :=
  ⟨a, rfl, ha⟩

/-- One check after another: the objections of the first come first. -/
theorem Checked.bind {f : α → Except Rejection β} (h : Checked x first P)
    (rest : ∀ a, P a → Checked (f a) second Q) : Checked (x >>= f) (first ++ second) Q := by
  cases first with
  | nil =>
    obtain ⟨a, rfl, ha⟩ := h
    exact rest a ha
  | cons rejection others =>
    change x = .error rejection at h
    subst h
    rfl

theorem Checked.map {f : α → β} (h : Checked x first P) (le : ∀ a, P a → Q (f a)) :
    Checked (f <$> x) first Q := by
  cases first with
  | nil =>
    obtain ⟨a, rfl, ha⟩ := h
    exact ⟨f a, rfl, le a ha⟩
  | cons rejection others =>
    change x = .error rejection at h
    subst h
    rfl

theorem checked_services :
    Checked (requireServices attached) (if attached then [] else [.noServices]) fun _ => True := by
  cases attached with
  | true => exact ⟨(), rfl, trivial⟩
  | false => rfl

theorem checked_actor :
    Checked (actingUser r) (if r.actor = "" then [.noUser] else []) (ActsAs r) := by
  unfold actingUser
  by_cases blank : r.actor = ""
  · rw [if_pos blank]
    have empty : (Text.strip (r.user.getD "")).isEmpty = true := String.isEmpty_iff.2 blank
    simp only [Checked, empty, if_true]
  · rw [if_neg blank]
    have filled : (Text.strip (r.user.getD "")).isEmpty = false := by
      rw [← Bool.not_eq_true, String.isEmpty_iff]
      exact blank
    simp only [filled]
    exact ⟨r.actor, rfl, rfl, blank⟩

/-- The services are looked for before the acting user. -/
theorem checked_serving :
    Checked (serving attached r)
      ((if attached then [] else [.noServices]) ++ if r.actor = "" then [.noUser] else [])
      (ActsAs r) :=
  (checked_services attached).bind fun _ _ => checked_actor r

theorem checked_pages :
    Checked (typed (pageParameters t))
      (report (errorsOf (integerParameter t "page" 0) ++ errorsOf (integerParameter t "limit" 20)))
      fun pages => Pages t pages.1 pages.2 := by
  unfold pageParameters defaultPage defaultLimit both
  cases page : integerParameter t "page" 0 <;> cases limit : integerParameter t "limit" 20
  case ok.ok p l => exact ⟨(p, l), rfl, page, limit⟩
  all_goals rfl

/-- The parameters of a search. -/
theorem checked_search :
    Checked
      (typed (match textParameter t "q", pageParameters t with
        | .ok query, .ok (page, limit) => .ok (query, page, limit)
        | query, pages => .error (errorsOf query ++ (errorsOf pages).flatten)))
      (report (errorsOf (textParameter t "q") ++
        (errorsOf (integerParameter t "page" 0) ++ errorsOf (integerParameter t "limit" 20))))
      fun (parameters : String × Int × Int) =>
        textParameter t "q" = .ok parameters.1 ∧ Pages t parameters.2.1 parameters.2.2 := by
  unfold pageParameters defaultPage defaultLimit both
  cases query : textParameter t "q" <;> cases page : integerParameter t "page" 0 <;>
    cases limit : integerParameter t "limit" 20
  case ok.ok.ok q p l => exact ⟨(q, p, l), rfl, rfl, page, limit⟩
  all_goals rfl

/-- A body is read, and then taken for a value of some type. -/
theorem checked_body (ofJson : Option Json → Except (List FieldError) α) :
    Checked (bodyOf r >>= fun body => typed (ofJson body)) (bodyObjections r ofJson)
      fun a => ∃ body, Body.read r.body = .ok body ∧ ofJson body = .ok a := by
  unfold bodyOf bodyObjections
  cases read : Body.read r.body with
  | error fault => cases fault <;> rfl
  | ok body =>
    dsimp only
    cases made : ofJson body with
    | error errors =>
      show typed (ofJson body) = _
      rw [made]
      rfl
    | ok a =>
      refine ⟨a, ?_, body, rfl, made⟩
      show typed (ofJson body) = _
      rw [made]
      rfl

/-- The user in a body, judged by its id. -/
theorem checked_node :
    Checked (nodeOf r) (bodyObjections r UserBody.ofJson ++ blankObjections r) (NodeIn r) := by
  have flat : nodeOf r = (bodyOf r >>= fun body => typed (UserBody.ofJson body)) >>= fun user =>
      user.toNode.mapError .refusedBody := (bind_assoc _ _ _).symm
  rw [flat]
  refine (checked_body r UserBody.ofJson).bind ?_
  rintro user ⟨body, read, made⟩
  have there : r.user? = some user := by simp [Request.user?, read, made, Except.toOption]
  unfold blankObjections UserBody.toNode UserNode.build
  rw [there]
  by_cases named : user.userId.identifies = true
  · simp only [named, if_true, dif_pos]
    exact ⟨_, rfl, user, there, dif_pos named⟩
  · simp only [named]
    rfl

/-- A user taken from the body has the body's id. -/
theorem NodeIn.otherObjections_eq {r : Request} {node : UserNode} (given : NodeIn r node)
    (pathId : String) : otherObjections r pathId =
      if node.userId = .str pathId then [] else [.idMismatch] := by
  obtain ⟨user, there, made⟩ := given.given
  have same : user.userId = node.userId := by
    unfold UserBody.toNode UserNode.build at made
    split at made
    · cases made
      rfl
    · cases made
  rw [otherObjections, there, ← same]

/-- A reason for a rejection in front of another check. -/
theorem Checked.unless {c : Prop} [Decidable c] {rejection : Rejection}
    (h : c → Checked x second P) :
    Checked (if ¬ c then .error rejection else x) ((if c then [] else [rejection]) ++ second) P := by
  by_cases now : c
  · simp only [now, not_true, if_true, if_false]
    exact h now
  · simp only [now, not_false_eq_true, if_true, if_false]
    rfl

end Checks

/-! ## Endpoints -/

section Endpoints

variable (attached : Bool) (r : Request) (pathId : String)

/-- An endpoint's action is its operation. -/
def Acts (e : Endpoint) (action : Action) : Prop :=
  ∃ op, action = .operation op ∧ Serves r pathId e op

variable {attached r pathId} {e : Endpoint}

/-- An endpoint that takes nothing but the acting user. -/
theorem checked_acting {op : String → Operation}
    (serves : ∀ user, ActsAs r user → Serves r pathId e (op user)) :
    Checked (serving attached r >>= fun user => pure (.operation (op user)))
      ((if attached then [] else [.noServices]) ++ if r.actor = "" then [.noUser] else [])
      (Acts r pathId e) := by
  rw [← map_eq_pure_bind]
  exact (checked_serving attached r).map fun user acting => ⟨_, rfl, serves user acting⟩

theorem checked_paged {op : Int → Int → Operation}
    (serves : ∀ page limit, Pages r.target page limit → Serves r pathId e (op page limit)) :
    Checked (.operation <$> paged attached r op)
      (report (errorsOf (integerParameter r.target "page" 0) ++ errorsOf (integerParameter r.target "limit" 20))
        ++ ((if attached then [] else [.noServices]) ++ []))
      (Acts r pathId e) := by
  refine Checked.map ?_ fun _ served => served
  refine (checked_pages r.target).bind ?_
  intro (page, limit) pages
  exact (checked_services attached).bind fun _ _ =>
    checked_pure (⟨_, rfl, serves page limit pages⟩ : Acts r pathId e _)

theorem checked_pagedByUser {op : String → Int → Int → Operation}
    (serves : ∀ user page limit, ActsAs r user → Pages r.target page limit →
      Serves r pathId e (op user page limit)) :
    Checked (.operation <$> pagedByUser attached r op)
      (report (errorsOf (integerParameter r.target "page" 0) ++ errorsOf (integerParameter r.target "limit" 20))
        ++ ((if attached then [] else [.noServices]) ++ if r.actor = "" then [.noUser] else []))
      (Acts r pathId e) := by
  refine Checked.map ?_ fun _ served => served
  refine (checked_pages r.target).bind ?_
  intro (page, limit) pages
  dsimp only
  rw [← map_eq_pure_bind]
  exact (checked_serving attached r).map fun user acting =>
    (⟨_, rfl, serves user page limit acting pages⟩ : Acts r pathId e _)

theorem checked_searchByUser {op : String → String → Int → Int → Operation}
    (serves : ∀ user query page limit, ActsAs r user → textParameter r.target "q" = .ok query →
      Pages r.target page limit → Serves r pathId e (op user query page limit)) :
    Checked (.operation <$> searchByUser attached r op)
      (report (errorsOf (textParameter r.target "q") ++
        (errorsOf (integerParameter r.target "page" 0) ++ errorsOf (integerParameter r.target "limit" 20)))
        ++ ((if attached then [] else [.noServices]) ++ if r.actor = "" then [.noUser] else []))
      (Acts r pathId e) := by
  refine Checked.map ?_ fun _ served => served
  refine (checked_search r.target).bind ?_
  rintro ⟨query, page, limit⟩ ⟨asked, pages⟩
  dsimp only
  rw [← map_eq_pure_bind]
  exact (checked_serving attached r).map fun user acting =>
    (⟨_, rfl, serves user query page limit acting asked pages⟩ : Acts r pathId e _)

/-- **The first objection is the rejection**; a request that nothing stands against asks for the
operation of its endpoint. -/
theorem operationOf_checked (attached : Bool) (r : Request) (pathId : String) (e : Endpoint)
    (operates : e.isOperation = true) :
    Checked (operationOf attached r pathId e) (objections attached r pathId e)
      (Acts r pathId e) := by
  cases e
  all_goals simp only [objections, typeObjections, queryErrors, Endpoint.takesNode,
    Endpoint.repeatsId, Endpoint.namesUser, Endpoint.takesQuery, Endpoint.takesPage, if_true,
    Bool.false_eq_true, if_false, List.nil_append, report]
  case document => cases operates
  case health => cases operates
  case createUser =>
    rw [← List.append_assoc]
    refine (checked_node r).bind fun node given => ?_
    exact (checked_services attached).bind fun _ _ =>
      checked_pure ⟨_, rfl, Serves.createUser given⟩
  case updateUser =>
    rw [← List.append_assoc]
    refine (checked_node r).bind fun node given => ?_
    rw [given.otherObjections_eq]
    refine Checked.unless fun named => ?_
    exact (checked_services attached).bind fun _ _ =>
      checked_pure ⟨_, rfl, Serves.updateUser given named⟩
  case getUser =>
    exact (checked_services attached).bind fun _ _ => checked_pure ⟨_, rfl, Serves.getUser⟩
  case follow => exact checked_acting fun _ => .follow
  case unfollow => exact checked_acting fun _ => .unfollow
  case removeFollower => exact checked_acting fun _ => .removeFollower
  case block => exact checked_acting fun _ => .block
  case unblock => exact checked_acting fun _ => .unblock
  case followers => exact checked_paged fun _ _ => .followers
  case following => exact checked_paged fun _ _ => .following
  case blocked => exact checked_pagedByUser fun _ _ _ => .blocked
  case «mutual» => exact checked_acting fun _ => .mutual
  case searchFollowers => exact checked_searchByUser fun _ _ _ _ => .searchFollowers
  case searchFollowing => exact checked_searchByUser fun _ _ _ _ => .searchFollowing
  case suggestions => exact checked_pagedByUser fun _ _ _ => .suggestions
  case interestSuggestions => exact checked_pagedByUser fun _ _ _ => .interestSuggestions
  case setInterests =>
    have flat : operationOf attached r pathId .setInterests =
        (bodyOf r >>= fun body => typed (interestsOfBody body)) >>= fun tags =>
          serving attached r >>= fun user => pure (.operation (.setInterests user tags)) :=
      (bind_assoc _ _ _).symm
    rw [flat]
    refine (checked_body r interestsOfBody).bind fun tags given => ?_
    exact checked_acting fun _ acting => .setInterests acting given
  case getInterests => exact checked_acting fun _ => .getInterests

end Endpoints
end FollowGraph.Http
