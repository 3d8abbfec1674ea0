import FollowGraph.Proofs.Graph.Lived
import FollowGraph.Proofs.Program.Noted
import FollowGraph.Proofs.Service.Contracts

/-!
# What operations write down of failures

Failures are caught at many depths, and what is caught there turns into null, an empty list or a
step that is left out. Each part of an operation `Warns`: it may pass over a failed call, but not
without an entry in the log. An operation must also account for its internal errors with an error in
the log (`Accounted`), and there are two ways not to.

* A write was refused (`History.Refused`). The response is an internal error then, and nothing was
  caught that could have been written down. With stores that tell the truth this does not come up.
* Mutual followers get null from `Mutual.find` when these could not be looked up, with a warning in
  the log. The response says that something went wrong, and no error is written
  (`Search.notes_mutualFollowers`).
-/

set_option autoImplicit false

namespace FollowGraph

open Attempt History

/-! ## Parts of operations -/

namespace Queries

theorem warns_isFollowing (a b : UserId) : (isFollowing a b).holds.Warns := (warns_call _).holds

theorem warns_blockedDirection (a b : UserId) : (blockedDirection a b).Warns := by
  refine (warns_call _).holds.bind fun _ => warns_ite (warns_pure _) ?_
  refine (warns_call _).holds.bind fun _ => warns_ite (warns_pure _) ?_
  exact (warns_log _ _ _).bind fun _ => warns_pure _

theorem warns_isBlocked (a b : UserId) : (isBlocked a b).Warns :=
  (warns_blockedDirection a b).bind fun _ => warns_pure _

end Queries

/-- The first call gave nothing: it failed, or came back with null. -/
def History.Lost : History → Prop
  | [] => False
  | first :: _ => ∀ v, first.answer = .ok v → v.isNull = true

namespace Mutual

/-- Null stands for a failure here, and a failure is only worth a warning. -/
theorem notes_find (a b : UserId) :
    (find a b).Notes fun h entries v =>
      Warned h entries ∧ ¬ Reported entries ∧
        ∃ asked, h = [asked] ∧ (v.isNull = true ↔ h.Lost) := by
  intro answer
  cases answer with
  | ok v =>
    refine ⟨.inl steady_ok, not_reported_nil, _, rfl, ?_⟩
    simp [Lost]
  | error failure =>
    refine ⟨.inr ⟨_, List.mem_singleton.2 rfl, .inl rfl⟩, ?_, _, rfl, ?_⟩
    · simp [Reported]
    · exact iff_of_true rfl fun v answered => by cases answered

theorem warns_find (a b : UserId) : (find a b).Warns :=
  Program.Notes.mono (notes_find a b) fun _ _ _ noted => noted.1

theorem warns_count (a b : UserId) : (count a b).Warns :=
  (warns_always (warns_find a b)).bind fun _ =>
    warns_ite (warns_pure _) ((warns_ofExcept _).bind fun _ => warns_pure _)

end Mutual

namespace Enrichment

theorem warns_flags (viewer candidate : UserId) : (flags viewer candidate).Warns :=
  (warns_call _).bind fun _ => (warns_call _).bind fun _ => (warns_call _).bind fun _ =>
    (warns_call _).bind fun _ => warns_pure _

theorem warns_enrich (node : UserNode) (viewer : UserId) :
    (enrich Mutual.count node viewer).Warns := by
  have flagged : (flags? viewer node.userId).Warns :=
    Warns.answering ((warns_flags viewer node.userId).map some) _ fun _ => .inl rfl
  refine (warns_always flagged).bind ?_
  intro flags
  cases flags with
  | none => exact warns_pure _
  | some flags =>
    refine (Mutual.warns_count viewer node.userId).bind ?_
    intro mutualCount
    split
    · exact (warns_log _ _ _).bind fun _ => warns_pure _
    · exact warns_pure _

theorem warns_enrichUnfollowed (node : UserNode) (viewer : UserId) :
    (enrichUnfollowed Mutual.count node viewer).Warns :=
  (warns_enrich node viewer).bind fun _ => warns_pure _

theorem warns_collect {one : UserNode → Attempt (Option EnrichedUser)}
    (h : ∀ node, (one node).Warns) (items : List Value) : (collect one items).Warns := by
  induction items with
  | nil => exact warns_pure _
  | cons item rest ih =>
    refine (warns_ofExcept _).bind fun node => ?_
    refine (warns_always (Warns.answering (h node) _ fun _ => .inl rfl)).bind fun _ => ?_
    exact ih.bind fun _ => warns_pure _

theorem warns_enrichMany (nodes : Value) (viewer : UserId) :
    (enrichMany Mutual.count nodes viewer).Warns :=
  (warns_ofExcept _).bind fun items => warns_collect (fun node => warns_enrich node viewer) items

theorem warns_enrichManyUnfollowed (nodes : Value) (viewer : UserId) :
    (enrichManyUnfollowed Mutual.count nodes viewer).Warns :=
  (warns_ofExcept _).bind fun items =>
    warns_collect (fun node => warns_enrichUnfollowed node viewer) items

end Enrichment

namespace SeenWindow

theorem warns_seenIds (window : SeenWindow) (viewer : UserId) : (window.seenIds viewer).Warns :=
  Warns.answering ((warns_call _).map idsOf) _ fun _ => .inl rfl

theorem warns_write (window : SeenWindow) (viewer : UserId) (shown : Json) (new : Nat) :
    (window.write viewer shown new).Warns :=
  Warns.answering ((warns_call _).bind fun _ => warns_log _ _ _) _ fun _ => .inl rfl

theorem warns_remember (window : SeenWindow) (viewer : UserId) (seen ids : List UserId) :
    (window.remember viewer seen ids).Warns :=
  (warns_ofExcept _).bind fun _ => warns_always (warns_write window viewer _ _)

theorem warns_filterUnseen (window : SeenWindow) (viewer : UserId) (candidates : Value) :
    (window.filterUnseen viewer candidates).Warns := by
  refine (warns_always (warns_seenIds window viewer)).bind fun seen => ?_
  refine (warns_ofExcept _).bind fun items => (warns_ofExcept _).bind fun nodes => ?_
  refine warns_ite (warns_pure _) ?_
  exact (warns_remember window viewer _ _).bind fun _ => warns_pure _

end SeenWindow

theorem Suggestions.warns_fetchCandidates (viewer : UserId) (page limit : Json) :
    (fetchCandidates viewer page limit).Warns := by
  refine (warns_call _).bind fun count => (warns_ofExcept _).bind fun start => ?_
  refine (warns_ofExcept _).bind fun isSecond => ?_
  cases isSecond with
  | false =>
    exact (warns_call _).bind fun _ => (warns_ofExcept _).bind fun _ =>
      (warns_ofExcept _).bind fun _ => warns_pure _
  | true =>
    exact (warns_call _).bind fun _ => (warns_ofExcept _).bind fun _ =>
      (warns_ofExcept _).bind fun _ => warns_pure _

theorem Follow.warns_bothExist (a b : UserId) : (bothExist a b).Warns :=
  (warns_call _).bind fun _ => warns_ite (warns_pure _) ((warns_call _).bind fun _ => warns_pure _)

theorem Follow.warns_notifyNewFollow (a b : UserId) : (notifyNewFollow a b).Warns := by
  refine Warns.answering ?_ _ fun _ => .inl rfl
  exact (warns_call _).bind fun _ => (warns_ofExcept _).bind fun _ => (warns_call _).bind fun _ =>
    warns_pure _

/-! ## Responses -/

/-- A write to the edges was answered with no. -/
def History.Refused (h : History) : Prop := ∃ e : Edge, Denied h e.creation ∨ Denied h e.deletion

theorem History.refused_append {s t : History} : Refused (s ++ t) ↔ Refused s ∨ Refused t := by
  simp only [Refused, heard_append, or_or_or_comm, exists_or]

abbrev Response.Internal (r : Response) : Prop := r.statusCode = 500

/-- No failed call goes unnoticed, and an internal error is written down as an error, unless a write
was refused. -/
structure Accounted (internal : Prop) (h : History) (entries : List LogEntry) : Prop where
  warned : Warned h entries
  reported : internal → Reported entries ∨ Refused h

theorem accounted_of_not {internal : Prop} {h : History} {entries : List LogEntry}
    (warned : Warned h entries) (other : ¬ internal) : Accounted internal h entries :=
  ⟨warned, fun now => absurd now other⟩

theorem Accounted.append {internal : Prop} {s t : History} {first second : List LogEntry}
    (before : Warned s first) (after : Accounted internal t second) :
    Accounted internal (s ++ t) (first ++ second) :=
  ⟨before.append after.warned, fun now =>
    (after.reported now).imp (fun there => reported_append.2 (.inr there))
      fun there => refused_append.2 (.inr there)⟩

section

variable {α β : Type} {internal : α → Prop}

def Program.Accounts (internal : α → Prop) (p : Program α) : Prop :=
  p.Notes fun h entries a => Accounted (internal a) h entries

/-- A failure is accounted for by whoever catches it. -/
def Attempt.Accounts (internal : α → Prop) (x : Attempt α) : Prop :=
  x.Notes (fun h entries a => Accounted (internal a) h entries) fun _ _ => True

theorem Attempt.accounts_pure {a : α} (other : ¬ internal a) :
    (pure a : Attempt α).Accounts internal := notes_pure (accounted_of_not warned_nil other)

theorem Attempt.accounts_ite {c : Prop} [Decidable c] {x y : Attempt α} (yes : x.Accounts internal)
    (no : y.Accounts internal) : (if c then x else y).Accounts internal :=
  notes_ite (fun _ => yes) fun _ => no

theorem Attempt.Warns.accounts {x : Attempt β} {f : β → Attempt α} (h : x.Warns)
    (rest : ∀ b, (f b).Accounts internal) : (x >>= f).Accounts internal := by
  refine Notes.bind h ?_
  intro s first b before
  exact Notes.mono (rest b) (fun _ _ _ after => Accounted.append before after) fun _ _ => id

theorem Attempt.accounts_always {p : Program α} (h : p.Accounts internal) :
    (always p).Accounts internal := notes_always h

/-- What is caught is written down as an error. -/
theorem Attempt.Accounts.answering {x : Attempt α} {a : α} (h : x.Accounts internal)
    (entry : Failure → LogEntry) (error : ∀ failure, (entry failure).level = .error) :
    (x.catching fun failure => .note (entry failure) (.done a)).Accounts internal :=
  Notes.answering h entry fun _ _ failure _ =>
    ⟨warned_of_last (.inr (error failure)), fun _ => .inl (reported_of_last (error failure))⟩

theorem accounts_unless {c : Prop} [Decidable c] {refusal : α} {p : Program α}
    (other : ¬ internal refusal) (h : p.Accounts internal) :
    (if c then pure refusal else p).Accounts internal := by
  split
  · exact accounted_of_not warned_nil other
  · exact h

/-- A write that decides a result. -/
theorem accounts_written {c : Call} (write : ∃ e : Edge, c = e.creation ∨ c = e.deletion)
    {level : LogLevel} {source : LogSource} {text : String} {yes no : α} (other : ¬ internal yes) :
    (do if ← (Attempt.call c).holds then
          Attempt.log level source text
          pure yes
        else pure no).Accounts internal := by
  have asked : (Attempt.call c).holds.Notes
      (fun h entries found => entries = [] ∧ h.Steady ∧ (found = false → Denied h c))
      fun _ _ => True := by
    intro answer
    cases answer with
    | error failure => trivial
    | ok v =>
      refine ⟨rfl, steady_ok, fun no => heard_ok.2 ⟨rfl, ?_⟩⟩
      simpa using no
  refine Notes.bind asked ?_
  rintro s first found ⟨rfl, steady, denied⟩
  have warned (entries : List LogEntry) : Warned (s ++ []) entries := by
    rw [List.append_nil]
    exact .inl steady
  refine notes_ite (fun _ => ?_) fun no => ?_
  · exact accounted_of_not (warned _) other
  · refine ⟨warned _, fun _ => .inr ?_⟩
    have denied := denied (Bool.not_eq_true _ ▸ no)
    rw [List.append_nil]
    obtain ⟨e, rfl | rfl⟩ := write
    · exact ⟨e, .inl denied⟩
    · exact ⟨e, .inr denied⟩

end

namespace Response

theorem not_internal_ok (message : String) (data : Value) : ¬ (ok message data).Internal := by
  simp [ok]

theorem not_internal_badRequest (message : String) : ¬ (badRequest message).Internal := by
  simp [badRequest, fail]

theorem not_internal_forbidden (message : String) : ¬ (forbidden message).Internal := by
  simp [forbidden, fail]

theorem not_internal_notFound (message : String) : ¬ (notFound message).Internal := by
  simp [notFound, fail]

end Response

open Response

/-! ## Operations -/

namespace Users

theorem accounts_create (user : UserNode) : (create user).Accounts Internal := by
  refine Accounts.answering ?_ _ fun _ => rfl
  refine (warns_call _).accounts fun _ => (warns_ofExcept _).accounts fun _ => ?_
  exact (warns_log _ _ _).accounts fun _ => accounts_pure (not_internal_ok _ _)

theorem accounts_update (user : UserNode) : (Users.update user).Accounts Internal := by
  refine Accounts.answering ?_ _ fun _ => rfl
  refine (warns_call _).holds.accounts fun _ => accounts_ite ?_ ?_
  · exact (warns_call _).accounts fun _ => accounts_pure (not_internal_ok _ _)
  · exact accounts_pure (not_internal_notFound _)

theorem accounts_get (userId : UserId) : (get userId).Accounts Internal := by
  refine Accounts.answering ?_ _ fun _ => rfl
  exact (warns_call _).accounts fun _ => accounts_ite (accounts_pure (not_internal_notFound _))
    (accounts_pure (not_internal_ok _ _))

end Users

namespace Follow

theorem accounts_followEdge (a b : UserId) :
    (followEdge a b).Accounts fun refusal => ∃ r ∈ refusal, r.Internal := by
  have refuse {r : Response} (other : ¬ r.Internal) :
      (pure (some r) : Attempt (Option Response)).Accounts fun o => ∃ r ∈ o, r.Internal :=
    accounts_pure (by simpa using other)
  refine (warns_bothExist a b).accounts fun _ =>
    accounts_ite (refuse (not_internal_badRequest _)) ?_
  refine (Queries.warns_isFollowing a b).accounts fun _ =>
    accounts_ite (refuse (not_internal_forbidden _)) ?_
  refine (Queries.warns_isBlocked a b).accounts fun _ =>
    accounts_ite (refuse (not_internal_forbidden _)) ?_
  refine accounts_written ⟨.following a b, .inl rfl⟩ ?_
  rintro ⟨_, there, -⟩
  cases there

theorem accounts_follow (a b : UserId) : (follow a b).Accounts Internal := by
  refine accounts_unless (not_internal_forbidden _) ?_
  refine Program.Notes.bind ((accounts_followEdge a b).answering _ fun _ => rfl) ?_
  intro s first refusal before
  cases refusal with
  | some r =>
    exact Program.notes_done_after (Q := fun h entries r => Accounted (Internal r) h entries)
      ⟨before.warned, fun now => before.reported ⟨r, rfl, now⟩⟩
  | none =>
    refine Program.Notes.bind (warns_notifyNewFollow a b) ?_
    intro t second _ after
    show Accounted _ (s ++ (t ++ [])) (first ++ (second ++ []))
    rw [List.append_nil, List.append_nil]
    exact accounted_of_not (before.warned.append after) (not_internal_ok _ _)

theorem accounts_unfollow (a b : UserId) : (unfollow a b).Accounts Internal := by
  refine accounts_unless (not_internal_forbidden _) ?_
  refine Accounts.answering ?_ _ fun _ => rfl
  refine (Queries.warns_isFollowing a b).accounts fun _ =>
    accounts_ite (accounts_pure (not_internal_forbidden _)) ?_
  refine (Queries.warns_isBlocked a b).accounts fun _ =>
    accounts_ite (accounts_pure (not_internal_forbidden _)) ?_
  exact accounts_written ⟨.following a b, .inr rfl⟩ (not_internal_ok _ _)

theorem accounts_removeFollower (a b : UserId) : (removeFollower a b).Accounts Internal := by
  refine accounts_unless (not_internal_forbidden _) ?_
  refine Accounts.answering ?_ _ fun _ => rfl
  refine (Queries.warns_isBlocked a b).accounts fun _ =>
    accounts_ite (accounts_pure (not_internal_forbidden _)) ?_
  refine (Queries.warns_isFollowing b a).accounts fun _ =>
    accounts_ite (accounts_pure (not_internal_forbidden _)) ?_
  exact accounts_written ⟨.following b a, .inr rfl⟩ (not_internal_ok _ _)

end Follow

namespace Block

/-- A step before a block answers for nothing, but what it comes to is written down. -/
theorem warns_detach (step : String) (a b : UserId) {applies : Attempt Bool}
    {operation : Program Response} (checks : applies.Warns)
    (h : operation.Accounts Internal) : (detach step a b applies operation).Warns := by
  have run : operation.Warns := Program.Notes.mono h fun _ _ _ accounted => accounted.warned
  refine Program.Warns.bind ?_ ?_
  · refine Warns.answering ?_ _ fun _ => .inl rfl
    refine checks.bind fun _ => warns_ite ?_ (warns_pure _)
    exact (warns_always run).bind fun _ => warns_pure _
  · intro outcome
    cases outcome with
    | none => exact Program.warns_done _
    | some response =>
      dsimp only
      split
      · exact Program.warns_done _
      · exact warned_nil

theorem accounts_block (a b : UserId) : (block a b).Accounts Internal := by
  refine accounts_unless (not_internal_forbidden _) ?_
  refine Accounts.answering ?_ _ fun _ => rfl
  refine (Follow.warns_bothExist a b).accounts fun _ =>
    accounts_ite (accounts_pure (not_internal_badRequest _)) ?_
  refine (Queries.warns_isBlocked a b).accounts fun _ =>
    accounts_ite (accounts_pure (not_internal_forbidden _)) ?_
  refine (warns_always (warns_detach "unfollow" a b (Queries.warns_isFollowing a b)
    (Follow.accounts_unfollow a b))).accounts fun _ => ?_
  refine (warns_always (warns_detach "remove follower" a b (Queries.warns_isFollowing b a)
    (Follow.accounts_removeFollower a b))).accounts fun _ => ?_
  exact accounts_written ⟨.blocked a b, .inl rfl⟩ (not_internal_ok _ _)

theorem accounts_unblock (a b : UserId) : (unblock a b).Accounts Internal := by
  refine accounts_unless (not_internal_forbidden _) ?_
  refine Accounts.answering ?_ _ fun _ => rfl
  refine (Queries.warns_blockedDirection a b).accounts ?_
  intro stored
  cases stored with
  | none => exact accounts_pure (not_internal_forbidden _)
  | some pair => exact accounts_written ⟨.blocked pair.1 pair.2, .inr rfl⟩ (not_internal_ok _ _)

end Block

/-! ## Lists -/

theorem accounts_paged (page limit : Int) {body : Attempt Response}
    (h : body.Accounts Internal) :
    (do match ← Attempt.ofExcept (checkPagination (.int page) (.int limit)) with
        | some refusal => pure refusal
        | none => body).Accounts Internal := by
  rw [checkPagination_int]
  show Accounts Internal (match ofPage? page limit with
    | some refusal => pure refusal
    | none => body)
  unfold ofPage?
  by_cases refused : page < 0 ∨ limit < 1
  · rw [if_pos refused]
    exact accounts_pure (not_internal_badRequest _)
  · rw [if_neg refused]
    exact h

/-- What is caught, in an operation that checks its arguments outside. -/
theorem accounts_caught {x : Attempt Response} {response : Response} (h : x.Accounts Internal)
    (entry : Failure → LogEntry) (error : ∀ failure, (entry failure).level = .error) :
    (Attempt.always (x.catching fun failure =>
      .note (entry failure) (.done response))).Accounts Internal :=
  accounts_always (h.answering entry error)

theorem Follow.accounts_listNeighbors (userId : UserId) (direction : Direction) (page limit : Int)
    (label small : String) :
    (listNeighbors userId direction (.int page) (.int limit) label small).Accounts Internal := by
  refine accounts_paged page limit (accounts_caught ?_ _ fun _ => rfl)
  refine (warns_call _).accounts fun raw => (Enrichment.warns_enrichMany raw userId).accounts ?_
  exact fun _ => (warns_ofExcept _).accounts fun _ => accounts_pure (not_internal_ok _ _)

theorem Block.accounts_getBlocked (userId : UserId) (page limit : Int) :
    (getBlocked userId (.int page) (.int limit)).Accounts Internal := by
  refine accounts_paged page limit (accounts_caught ?_ _ fun _ => rfl)
  refine (warns_call _).accounts fun raw => (Enrichment.warns_enrichMany raw userId).accounts ?_
  exact fun _ => (warns_ofExcept _).accounts fun _ => accounts_pure (not_internal_ok _ _)

theorem Search.accounts_searchNeighbors (userId : UserId) (direction : Direction) (query : String)
    (page limit : Int) (label capital : String) :
    (searchNeighbors userId direction (.str query) (.int page) (.int limit) label
      capital).Accounts Internal := by
  refine accounts_paged page limit ((warns_ofExcept _).accounts fun _ => ?_)
  refine accounts_ite (accounts_pure (not_internal_badRequest _)) ?_
  refine accounts_caught ?_ _ fun _ => rfl
  refine (warns_call _).accounts fun raw => accounts_ite ?_ ?_
  · exact (warns_log _ _ _).accounts fun _ => accounts_pure (not_internal_notFound _)
  · refine (Enrichment.warns_enrichMany raw userId).accounts fun _ => ?_
    exact (warns_ofExcept _).accounts fun _ => accounts_pure (not_internal_ok _ _)

theorem Suggestions.accounts_getSuggestions (viewer : UserId) (page limit : Int) :
    (getSuggestions viewer (.int page) (.int limit)).Accounts Internal := by
  refine accounts_paged page limit (accounts_caught ?_ _ fun _ => rfl)
  refine (warns_fetchCandidates viewer _ _).accounts fun candidates => ?_
  refine (warns_log _ _ _).accounts fun _ => ?_
  refine (SeenWindow.warns_filterUnseen _ viewer candidates.users).accounts fun unseen => ?_
  exact (Enrichment.warns_enrichMany _ viewer).accounts fun _ =>
    accounts_pure (not_internal_ok _ _)

namespace Interests

theorem accounts_getSuggestions (viewer : UserId) (page limit : Int) :
    (getSuggestions viewer (.int page) (.int limit)).Accounts Internal := by
  refine accounts_paged page limit (accounts_caught ?_ _ fun _ => rfl)
  refine (warns_call _).accounts fun raw => ?_
  refine (SeenWindow.warns_filterUnseen _ viewer raw).accounts fun unseen => ?_
  refine (Enrichment.warns_enrichManyUnfollowed _ viewer).accounts fun _ => ?_
  exact (warns_ofExcept _).accounts fun _ => accounts_pure (not_internal_ok _ _)

theorem accounts_set (userId : UserId) (tags : Json) : (set userId tags).Accounts Internal := by
  refine (warns_ofExcept _).accounts fun texts => ?_
  cases texts with
  | none => exact accounts_pure (not_internal_badRequest _)
  | some texts =>
    refine accounts_caught ?_ _ fun _ => rfl
    refine (warns_call _).holds.accounts fun _ => accounts_ite ?_ ?_
    · exact (warns_log _ _ _).accounts fun _ => accounts_pure (not_internal_ok _ _)
    · exact accounts_pure (not_internal_notFound _)

/-- The response in place of tags that could not be read. -/
abbrev Unread : Except Response Value → Prop
  | .error r => r.Internal
  | .ok _ => False

theorem accounts_stored (userId : UserId) : (stored userId).Accounts Unread := by
  refine Accounts.answering ?_ _ fun _ => rfl
  rw [map_eq_pure_bind]
  exact (warns_call _).accounts fun _ => accounts_pure id

theorem accounts_get (userId : UserId) : (get userId).Accounts Internal := by
  refine Notes.bind (accounts_always (accounts_stored userId)) ?_
  intro s first tags before
  cases tags with
  | error r =>
    exact notes_pure_after (Q := fun h entries r => Accounted (Internal r) h entries) before
  | ok tags =>
    have rest : (if tags.isFalsy then
          pure (.fail 404 "User interests not found" (.plain (.arr [])))
        else do
          let tags ← Attempt.ofExcept (ascending tags)
          pure (.ok "User interests fetched successfully" (.plain tags)) :
        Attempt Response).Accounts Internal :=
      accounts_ite (accounts_pure (by simp [fail]))
        ((warns_ofExcept _).accounts fun _ => accounts_pure (not_internal_ok _ _))
    exact Notes.mono rest (fun _ _ _ after => Accounted.append before.warned after) fun _ _ => id

end Interests

/-! ## Mutual followers -/

namespace Search

/-- An internal error goes unreported just when the mutual followers were lost. -/
structure Hushed (h : History) (entries : List LogEntry) (r : Response) : Prop where
  warned : Warned h entries
  silent : (r.Internal ∧ ¬ Reported entries) ↔ h.Lost

theorem hushed_of_told {h : History} {entries : List LogEntry} {r : Response}
    (warned : Warned h entries) (told : ¬ h.Lost) (accounted : r.Internal → Reported entries) :
    Hushed h entries r :=
  ⟨warned, iff_of_false (fun silent => silent.2 (accounted silent.1)) told⟩

/-- What comes after the mutual followers were told. -/
theorem hushed_of_warns {β : Type} {x : Attempt β} {f : β → Response} {asked : Asked}
    {first : List LogEntry} (told : ¬ History.Lost [asked]) (warned : Warned [asked] first)
    (warns : x.Warns) (other : ∀ v, ¬ (f v).Internal) :
    (x >>= fun v => pure (f v)).Notes
      (fun t second => Hushed ([asked] ++ t) (first ++ second))
      fun t _ => ¬ Lost ([asked] ++ t) := by
  refine Attempt.Notes.bind (Attempt.Notes.mono warns (fun _ _ _ => id) fun _ _ _ => told) ?_
  intro t second v after
  refine notes_pure ?_
  rw [List.append_nil, List.append_nil]
  exact hushed_of_told (warned.append after) told fun now => absurd now (other v)

theorem notes_mutualFollowers (a b : UserId) : (mutualFollowers a b).Notes Hushed := by
  refine Attempt.Notes.answering (E := fun h _ => ¬ h.Lost) ?_ _ ?_
  · refine Attempt.Notes.bind (notes_always (Mutual.notes_find a b)) ?_
    rintro _ first found ⟨warned, unreported, asked, rfl, lost⟩
    refine notes_ite (fun null => ?_) fun there => ?_
    · exact notes_pure_after ⟨warned, iff_of_true ⟨rfl, unreported⟩ (lost.1 null)⟩
    · have told : ¬ History.Lost [asked] := fun now => there (lost.2 now)
      refine notes_ite (fun _ => ?_) fun _ => ?_
      · exact hushed_of_warns told warned (warns_log _ _ _) fun _ => not_internal_notFound _
      · exact hushed_of_warns told warned (Enrichment.warns_enrichMany _ _)
          fun _ => not_internal_ok _ _
  · intro s first failure told
    exact hushed_of_told (warned_of_last (.inr rfl)) told fun _ => reported_of_last rfl

end Search

/-! ## Every operation -/

namespace Operation

/-- A write that was refused is all that can leave an internal error unreported, but for mutual
followers. -/
theorem accounts {op : Operation} (other : ∀ a b, op ≠ .mutualFollowers a b) :
    op.program.Accounts Internal := by
  cases op with
  | createUser user => exact accounts_always (Users.accounts_create user)
  | updateUser user => exact accounts_always (Users.accounts_update user)
  | getUser userId => exact accounts_always (Users.accounts_get _)
  | follow a b => exact accounts_always (Follow.accounts_follow _ _)
  | unfollow a b => exact accounts_always (Follow.accounts_unfollow _ _)
  | removeFollower a b => exact accounts_always (Follow.accounts_removeFollower _ _)
  | getFollowing userId page limit => exact Follow.accounts_listNeighbors _ _ _ _ _ _
  | getFollowers userId page limit => exact Follow.accounts_listNeighbors _ _ _ _ _ _
  | block a b => exact accounts_always (Block.accounts_block _ _)
  | unblock a b => exact accounts_always (Block.accounts_unblock _ _)
  | getBlocked userId page limit => exact Block.accounts_getBlocked _ _ _
  | mutualFollowers a b => exact absurd rfl (other a b)
  | searchFollowers userId query page limit => exact Search.accounts_searchNeighbors _ _ _ _ _ _ _
  | searchFollowing userId query page limit => exact Search.accounts_searchNeighbors _ _ _ _ _ _ _
  | getSuggestions viewer page limit => exact Suggestions.accounts_getSuggestions _ _ _
  | setInterests userId tags => exact Interests.accounts_set _ _
  | getInterests userId => exact Interests.accounts_get _
  | getInterestSuggestions viewer page limit => exact Interests.accounts_getSuggestions _ _ _

end Operation

end FollowGraph
