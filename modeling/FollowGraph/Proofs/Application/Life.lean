import FollowGraph.Application
import FollowGraph.Proofs.Cypher.Command
import FollowGraph.Proofs.Http.Surface
import FollowGraph.Proofs.Service.Envelopes

/-!
# What is opened is closed

Three things are opened in the life of the service, and each is given back on its own level: a
session by the operation that opened it, whatever its statements come to; the services by the end
of the life, however it began and ended; and a request gets an answer, whatever the database raises
during it.

All three go through one relation. `Ran s h t` says what the calls of `h` can have done to a running
service: the sessions opened since have been left, nothing is closed or detached, and every failure
that the script of the database held for the statements run is the answer of some call in `h`. Each
call keeps it (`ran_answer`), so every run does, and so do all requests of a life. The last clause
is what an operation needs to know for its answer to be excused (`Operation.answers`).
-/

set_option autoImplicit false

namespace FollowGraph

/-! ## Sessions -/

namespace Cypher

/-- The database after `n` more statements, in sessions that have been left again. -/
structure Database.Used (db after : Database) (n sessions : Nat) : Prop where
  script : after.script = db.script.drop n
  queries : after.queries.length = db.queries.length + n
  opened : after.opened = db.opened + sessions
  left : after.left = db.left + sessions

/-- One of the statements run in between came to a failure. -/
def Database.Raised (db after : Database) : Prop :=
  ∃ failure, .fail failure ∈ db.script.take (after.queries.length - db.queries.length)

variable {α : Type} {db mid after : Database} {n k sessions more : Nat}

theorem Database.used_refl (db : Database) : db.Used db 0 0 := ⟨rfl, rfl, rfl, rfl⟩

theorem Database.Used.trans (first : db.Used mid n sessions) (second : mid.Used after k more) :
    db.Used after (n + k) (sessions + more) where
  script := by rw [second.script, first.script, List.drop_drop]
  queries := by rw [second.queries, first.queries, Nat.add_assoc]
  opened := by rw [second.opened, first.opened, Nat.add_assoc]
  left := by rw [second.left, first.left, Nat.add_assoc]

theorem Conducted.used {plan : List Query} {result : Except Failure α}
    (h : Conducted plan db result after n sessions) : db.Used after n sessions := by
  rw [h.database]
  refine ⟨rfl, ?_, rfl, rfl⟩
  rw [List.length_append, List.length_take, Nat.min_eq_left h.within]

/-- Every operation gives its session back, and the first failure is what it comes to. -/
theorem Command.used (c : Command) (db : Database) : ∃ n sessions, sessions ≤ 1 ∧
    db.Used (c.run.run.run db).2 n sessions ∧
    ∀ failure, .fail failure ∈ db.script.take n → (c.run.run.run db).1 = .error failure := by
  obtain ⟨n, sessions, kept⟩ := c.keeps db
  exact ⟨n, sessions, kept.once, kept.used, kept.failed⟩

/-- The constraints are two statements, and they are there unless one of the two fails. -/
theorem Store.run_ensureConstraints (db : Database) :
    ((ensureConstraints.run.run db).1 = .ok () ∧ ∀ failure, .fail failure ∉ db.script.take 2) ∨
      ∃ failure, (ensureConstraints.run.run db).1 = .error failure ∧
        .fail failure ∈ db.script.take 2 := by
  obtain ⟨script, queries, opened, left⟩ := db
  rcases script with _ | ⟨rows | failure, script⟩
  · exact .inl ⟨rfl, fun _ there => by cases there⟩
  · rcases script with _ | ⟨more | failure, script⟩
    · exact .inl ⟨rfl, fun _ there => by simp at there⟩
    · exact .inl ⟨rfl, fun _ there => by simp at there⟩
    · exact .inr ⟨failure, rfl, List.mem_cons_of_mem _ List.mem_cons_self⟩
  · exact .inr ⟨failure, rfl, List.mem_cons_self⟩

end Cypher

open Cypher History

namespace Application

/-! ## Runs -/

/-- What a service is like after it answered some calls. -/
structure Ran (s : Application) (h : History) (t : Application) : Prop where
  attached : t.attached = s.attached
  databaseClosings : t.databaseClosings = s.databaseClosings
  serverClosings : t.serverClosings = s.serverClosings
  database : ∃ n sessions, s.database.Used t.database n sessions ∧
    ∀ failure, .fail failure ∈ s.database.script.take n →
      ∃ call, (⟨.graph call, .error failure⟩ : Asked) ∈ h

variable {s t : Application} {h : History}

theorem ran_refl (s : Application) : Ran s [] s :=
  ⟨rfl, rfl, rfl, 0, 0, s.database.used_refl, fun _ there => by cases there⟩

theorem ran_answer (ran : Ran s h t) (c : Call) :
    Ran s (h ++ [⟨c, (t.answer c).1⟩]) (t.answer c).2 := by
  obtain ⟨n, sessions, used, heard⟩ := ran.database
  cases c with
  | graph call =>
    obtain ⟨k, more, -, further, failed⟩ := (Command.ofCall call).used t.database
    rw [Command.run_ofCall] at further failed
    refine ⟨ran.attached, ran.databaseClosings, ran.serverClosings, n + k, sessions + more,
      used.trans further, fun failure there => ?_⟩
    rw [List.take_add, List.mem_append] at there
    rcases there with before | now
    · obtain ⟨earlier, there⟩ := heard failure before
      exact ⟨earlier, List.mem_append_left _ there⟩
    · rw [← used.script] at now
      refine ⟨call, List.mem_append_right _ (List.mem_singleton.2 ?_)⟩
      rw [answer_graph, failed failure now]
  | _ =>
    exact ⟨ran.attached, ran.databaseClosings, ran.serverClosings, n, sessions, used,
      fun failure there => (heard failure there).imp fun _ there => List.mem_append_left _ there⟩

theorem ran_run {α : Type} (p : Program α) (ran : Ran s h t) :
    Ran s (h ++ p.trace backend t) (p.run backend t).2 :=
  Program.run_related (b := backend) (I := Ran s) (fun _ _ c ran => ran_answer ran c)
    (fun _ _ _ ⟨same, closings, servers, database⟩ => ⟨same, closings, servers, database⟩) p ran

/-- Whatever is done for a request. -/
theorem ran_during (p : Attempt Http.Reply) (ran : Ran s h t) : ∃ h, Ran s h (t.during p).2 :=
  ⟨h ++ p.run.trace backend t, ran_run p.run ran⟩

theorem ran_serveAll (requests : List Http.Request) (ran : Ran s h t) :
    ∃ h, Ran s h (serveAll requests t).2 := by
  induction requests generalizing h t with
  | nil => exact ⟨h, ran⟩
  | cons r rest ih =>
    obtain ⟨_, next⟩ := ran_during (Http.answer t.attached r) ran
    exact ih next

/-- No request is passed over, whatever becomes of those before it. -/
theorem length_serveAll (requests : List Http.Request) (a : Application) :
    (serveAll requests a).1.length = requests.length := by
  induction requests generalizing a with
  | nil => rfl
  | cons r rest ih => exact congrArg (· + 1) (ih (a.serve r).2)

/-- A statement that failed during a run is a call that failed in it. -/
theorem Ran.struck (ran : Ran s h t) (raised : s.database.Raised t.database) : h.Struck := by
  obtain ⟨n, sessions, used, heard⟩ := ran.database
  obtain ⟨failure, there⟩ := raised
  rw [used.queries, Nat.add_sub_cancel_left] at there
  obtain ⟨call, there⟩ := heard failure there
  exact ⟨call, failure, there⟩

/-! ## Requests -/

variable {a : Application} {r : Http.Request} {op : Operation}

/-- A request that leads to an operation is that operation, and its envelope is sent. -/
theorem serve_of_operation (decided : Http.decide a.attached r = .ok (.operation op)) :
    (a.serve r).1.outcome = (op.program.on backend a).1.bind (fun response =>
        Http.send (Http.replyOf response)) ∧
      (a.serve r).2 = (op.program.on backend a).2 := by
  have performs := Http.performs_of_decide (b := backend) (s := a) decided
  have sends := Http.sends backend a a.attached r
  refine ⟨?_, sends.state.trans performs.state⟩
  show ((Http.answer a.attached r).on backend a).1 = _
  rw [sends.outcome, performs.outcome]
  cases (op.program.on backend a).1 <;> rfl

/-- An envelope arrives. Only a list can hold what cannot be sent, and then that is the failure. -/
def Delivers (op : Operation) (response : Response) (outcome : Except Failure Http.Reply) : Prop :=
  outcome = .ok (Http.replyOf response) ∨
    ∃ call message failure, op.Lists call message ∧
      Http.requireContent response.toJson = .error failure ∧ outcome = .error failure

theorem delivers_of_excuses {h : History} {response : Response} (excuses : op.Excuses h response) :
    Delivers op response (Http.send (Http.replyOf response)) := by
  have plain (text : String) (message : response.message = .str text)
      (data : response.data = .null) (error : response.error = .null) :
      Delivers op response (Http.send (Http.replyOf response)) :=
    .inl (Http.send_of_sendable (Http.requireContent_plain message data error))
  cases excuses with
  | failed | followed | blocked => exact plain _ rfl rfl rfl
  | @shortened _ call message _ _ lists short =>
    cases unsendable : Http.requireContent response.toJson with
    | ok => exact .inl (Http.send_of_sendable unsendable)
    | error failure =>
      have fails : Http.send (Http.replyOf response) = .error failure :=
        congrArg (Except.map fun _ => Http.replyOf response) unsendable
      exact .inr ⟨call, message, failure, lists, unsendable, fails⟩

/-- **What the database raises during a request ends in an answer.** -/
theorem answered_of_raised (decided : Http.decide a.attached r = .ok (.operation op))
    (raised : a.database.Raised (a.serve r).2.database) :
    ∃ response, op.Excuses (op.program.trace backend a) response ∧
      Delivers op response (a.serve r).1.outcome := by
  obtain ⟨outcome, left⟩ := serve_of_operation decided
  rw [left] at raised
  have struck : (op.program.trace backend a).Struck := (ran_run _ (ran_refl a)).struck raised
  obtain ⟨response, answered, excuses⟩ := op.answers.of_struck backend a struck
  rw [outcome, answered]
  exact ⟨response, excuses, delivers_of_excuses excuses⟩

/-! ## Lives -/

/-- Everything that was opened has been closed, and closed once. -/
structure Closed (a : Application) : Prop where
  database : a.databaseClosings = 1
  server : a.serverClosings = 1
  detached : a.attached = false
  sessions : a.database.opened = a.database.left

theorem closed_stop (ran : Ran s h t) (databaseClosings : s.databaseClosings = 0)
    (serverClosings : s.serverClosings = 0) (balanced : s.database.opened = s.database.left) :
    t.stop.Closed where
  database := by rw [stop, ran.databaseClosings, databaseClosings]
  server := by rw [stop, ran.serverClosings, serverClosings]
  detached := rfl
  sessions := by
    obtain ⟨n, sessions, used, -⟩ := ran.database
    show t.database.opened = t.database.left
    rw [used.opened, used.left, balanced]

/-- What start-up comes to. -/
theorem start_eq (a : Application) :
    a.start = ((Store.ensureConstraints.run.run a.database).1, { a with
      database := (Store.ensureConstraints.run.run a.database).2
      attached := match (Store.ensureConstraints.run.run a.database).1 with
        | .ok () => true
        | .error _ => a.attached }) := by
  unfold start
  rcases Store.ensureConstraints.run.run a.database with ⟨failure | ⟨⟩, db⟩ <;> rfl

/-- Start-up gives its session back like any operation, and closes nothing. -/
theorem balanced_start (settings : Settings) (script : List ScriptItem) :
    let a := ((created settings script).start).2
    a.databaseClosings = 0 ∧ a.serverClosings = 0 ∧ a.database.opened = a.database.left := by
  obtain ⟨n, sessions, kept⟩ := Store.keeps_ensureConstraints (created settings script).database
  rw [start_eq]
  refine ⟨rfl, rfl, ?_⟩
  dsimp only
  rw [kept.used.opened, kept.used.left]
  rfl

section Lifespan

variable (settings : Settings) (script : List ScriptItem)
  (serving : Application → List Served × Application)

/-- A life closes everything, whatever it is spent on, if that itself closes nothing. -/
theorem closed_lifespan (keeps : ∀ a, ∃ h, Ran a h (serving a).2) :
    (lifespan settings script serving).final.Closed := by
  obtain ⟨databaseClosings, serverClosings, balanced⟩ := balanced_start settings script
  have ran : ∃ h t, Ran (created settings script).start.2 h t ∧
      (lifespan settings script serving).final = t.stop := by
    unfold lifespan
    rcases (created settings script).start with ⟨failure | ⟨⟩, a⟩
    · exact ⟨[], a, ran_refl a, rfl⟩
    · obtain ⟨h, ran⟩ := keeps a
      exact ⟨h, _, ran, rfl⟩
  obtain ⟨h, t, ran, stopped⟩ := ran
  rw [stopped]
  exact closed_stop ran databaseClosings serverClosings balanced

/-- A life begins unless one of the two statements of start-up fails, and then that failure is all
there is of it. -/
theorem lifespan_start :
    let life := lifespan settings script serving
    ((life.startUp.isSome = true ∧ ∃ a, life.served = (serving a).1) ∧
        ∀ failure, .fail failure ∉ script.take 2) ∨
      ∃ failure, .fail failure ∈ script.take 2 ∧ life.startUp = none ∧ life.served = [] ∧
        life.outcome = .error failure := by
  intro life
  rcases Store.run_ensureConstraints (Database.ofScript script) with
    ⟨succeeded, steady⟩ | ⟨failure, failed, there⟩
  · have started : (created settings script).start.1 = .ok () := by rw [start_eq]; exact succeeded
    refine .inl ⟨?_, steady⟩
    show (lifespan settings script serving).startUp.isSome = true ∧
      ∃ a, (lifespan settings script serving).served = (serving a).1
    unfold lifespan
    revert started
    rcases (created settings script).start with ⟨failure | ⟨⟩, a⟩
    · exact nofun
    · exact fun _ => ⟨rfl, a, rfl⟩
  · have started : (created settings script).start.1 = .error failure := by
      rw [start_eq]; exact failed
    refine .inr ⟨failure, there, ?_⟩
    show (lifespan settings script serving).startUp = none ∧
      (lifespan settings script serving).served = [] ∧
      (lifespan settings script serving).outcome = .error failure
    unfold lifespan
    revert started
    rcases (created settings script).start with ⟨other | ⟨⟩, a⟩
    · rintro ⟨⟩
      exact ⟨rfl, rfl, rfl⟩
    · exact nofun

end Lifespan

/-- **Whatever fails, everything is given back and every request is answered.**

On the level of the database, an operation opens at most one session and leaves it, and the
failure of a statement is what it comes to. On that of the service, a life begins unless a statement
of start-up fails, gets to every request if it begins, and closes everything once either way. On
that of a request, what the database raises ends in one of the envelopes that excuse it. -/
theorem resources_balanced :
    (∀ (c : Command) (db : Database), ∃ n sessions, sessions ≤ 1 ∧
      db.Used (c.run.run.run db).2 n sessions ∧
      ∀ failure, .fail failure ∈ db.script.take n → (c.run.run.run db).1 = .error failure) ∧
    (∀ settings script requests,
      let life := live settings script requests
      (life.startUp = none ↔ ∃ failure, .fail failure ∈ script.take 2) ∧
      (life.startUp = none → life.served = [] ∧ ∃ failure, .fail failure ∈ script.take 2 ∧
        life.outcome = .error failure) ∧
      (life.startUp ≠ none → life.served.length = requests.length) ∧
      life.final.Closed) ∧
    ∀ (a : Application) (r : Http.Request) (op : Operation),
      Http.decide a.attached r = .ok (.operation op) →
      a.database.Raised (a.serve r).2.database →
      ∃ response, op.Excuses (op.program.trace backend a) response ∧
        Delivers op response (a.serve r).1.outcome := by
  refine ⟨fun c db => c.used db, fun settings script requests => ?_, fun a r op =>
    answered_of_raised⟩
  intro life
  have begun := lifespan_start settings script (serveAll requests)
  have closed : life.final.Closed :=
    closed_lifespan settings script _ fun a => ran_serveAll requests (ran_refl a)
  rcases begun with ⟨⟨some, a, served⟩, steady⟩ | ⟨failure, there, none, served, outcome⟩
  · have begun : life.startUp ≠ none := Option.isSome_iff_ne_none.1 some
    refine ⟨⟨fun none => absurd none begun, ?_⟩, fun none => absurd none begun, fun _ => ?_, closed⟩
    · rintro ⟨failure, there⟩
      exact absurd there (steady failure)
    · exact (congrArg List.length served).trans (length_serveAll requests a)
  · exact ⟨⟨fun _ => ⟨failure, there⟩, fun _ => none⟩, fun _ => ⟨served, failure, there, outcome⟩,
      fun begun => absurd none begun, closed⟩

/-- The database is not there. -/
def outage : ScriptItem := .fail (.external "ServiceUnavailable" "no connection")

/-- A running service whose database has just gone. -/
def stranded : Application := { created .default [outage] with attached := true }

def lookUp : Http.Request :=
  { method := "GET", path := "/users/ann", query := "", user := none, body := none }

theorem resources_balanced_outage :
    (∃ n sessions, Database.Used (.ofScript [outage])
      ((Command.findNode (.str "ann")).run.run.run (.ofScript [outage])).2 n sessions) ∧
    (live .default [.records [], outage] [lookUp]).served = [] ∧
    (live .default [.records [], outage] [lookUp]).final.Closed ∧
    ∃ response, (Operation.getUser "ann").Excuses
        ((Operation.getUser "ann").program.trace backend stranded) response ∧
      Delivers (.getUser "ann") response (stranded.serve lookUp).1.outcome := by
  obtain ⟨commands, lives, requests⟩ := resources_balanced
  obtain ⟨fails, empty, -, closed⟩ := lives .default [.records [], outage] [lookUp]
  have failed := fails.2 ⟨.external "ServiceUnavailable" "no connection", by simp [outage]⟩
  obtain ⟨n, sessions, -, used, -⟩ := commands (.findNode (.str "ann")) (.ofScript [outage])
  refine ⟨⟨n, sessions, used⟩, (empty failed).1, closed, ?_⟩
  refine requests stranded lookUp (.getUser "ann") rfl ?_
  exact ⟨.external "ServiceUnavailable" "no connection", List.mem_singleton.2 rfl⟩

end Application
end FollowGraph
