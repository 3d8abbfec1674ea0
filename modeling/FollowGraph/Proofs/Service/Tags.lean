import FollowGraph.Proofs.Json.Order
import FollowGraph.Proofs.Service.Unsuccessful
import FollowGraph.Proofs.Store.Cache

/-!
# A user's tags are replaced as a set

What texts name does not depend on blanks and capitals (`Interest.normalized`). Where each of them
names a tag, the user is given the tags that they name, each once (`Interests.Names`), in place of
those from before; otherwise nothing is written.

Tags are sorted when they are read, and there is only one list in ascending order of the members
of a set (`Interests.Shows.unique`). So what a user is shown does not depend on how the tags were
written, nor on how often: `World.HasTags` speaks of them in any order, and to set the same ones
again keeps it.
-/

set_option autoImplicit false

namespace FollowGraph

/-! ## Texts that name tags -/

namespace Interest

/-- A text as it is compared with the values of the tags. -/
def normalized (text : Json) : String := Text.lower (Text.strip text.display)

/-- A text that names a tag. -/
def Known (text : Json) : Prop := ∃ tag : Interest, tag.value = normalized text

theorem ofValue?_value (tag : Interest) : ofValue? tag.value = some tag := by
  cases tag <;> decide

theorem value_of_ofValue? {text : String} {tag : Interest} (h : ofValue? text = some tag) :
    tag.value = text := by
  have found := List.find?_some h
  exact beq_iff_eq.1 found

theorem Known.ofText? {text : Json} (h : Known text) :
    ∃ tag : Interest, Interest.ofText? text.display = some tag ∧ tag.value = normalized text := by
  obtain ⟨tag, same⟩ := h
  refine ⟨tag, ?_, same⟩
  show ofValue? (normalized text) = some tag
  rw [← same, ofValue?_value]

theorem ofText?_of_not_known {text : Json} (h : ¬ Known text) :
    Interest.ofText? text.display = none := by
  rw [Option.eq_none_iff_forall_ne_some]
  exact fun tag named => h ⟨tag, value_of_ofValue? named⟩

/-- The values of the tags are normalized. -/
theorem normalized_value (tag : Interest) : normalized (.str tag.value) = tag.value := by
  cases tag <;> decide +kernel

theorem Known.normalized_normalized {text : Json} (h : Known text) :
    normalized (.str (normalized text)) = normalized text := by
  obtain ⟨tag, same⟩ := h
  rw [← same, normalized_value]

end Interest

namespace Interests

/-- What texts name, without repetitions. -/
def namesOf (tags : List Json) : List String := distinct (tags.map Interest.normalized)

/-- Two lists of texts that name the same, in any order and any number of times. -/
def NameSame (tags tags' : List Json) : Prop :=
  ∀ name, name ∈ tags.map Interest.normalized ↔ name ∈ tags'.map Interest.normalized

/-- A list of all that texts name, each once and in the order in which it is first named. -/
structure Names (tags : List Json) (names : List String) : Prop where
  nodup : names.Nodup
  mem_iff : ∀ name, name ∈ names ↔ ∃ tag ∈ tags, Interest.normalized tag = name
  first : names.Pairwise fun a b =>
    (tags.map Interest.normalized).idxOf a < (tags.map Interest.normalized).idxOf b

variable {tags tags' : List Json} {names names' : List String}

theorem names_namesOf (tags : List Json) : Names tags (namesOf tags) where
  nodup := nodup_distinct _
  mem_iff name := by rw [namesOf, mem_distinct, List.mem_map]
  first := by
    have ordered := pairwise_idxOf_distinct_filter (fun _ => true) (tags.map Interest.normalized)
    rwa [List.filter_eq_self.2 fun _ _ => rfl] at ordered

theorem NameSame.perm (h : NameSame tags tags') : (namesOf tags).Perm (namesOf tags') := by
  refine (List.perm_ext_iff_of_nodup (nodup_distinct _) (nodup_distinct _)).2 fun name => ?_
  rw [mem_distinct, mem_distinct]
  exact h name

theorem NameSame.known (h : NameSame tags tags') (known : ∀ tag ∈ tags', Interest.Known tag) :
    ∀ tag ∈ tags, Interest.Known tag := by
  intro tag there
  obtain ⟨other, there', same⟩ := List.mem_map.1 ((h _).1 (List.mem_map_of_mem there))
  obtain ⟨value, valued⟩ := known other there'
  exact ⟨value, valued.trans same⟩

/-- The tags that texts name, given as texts themselves, name the same. -/
theorem nameSame_namesOf (known : ∀ tag ∈ tags, Interest.Known tag) :
    NameSame ((namesOf tags).map .str) tags := by
  have fixed : ((namesOf tags).map Json.str).map Interest.normalized = namesOf tags := by
    rw [List.map_map]
    refine (List.map_congr_left fun name there => ?_).trans (List.map_id _)
    obtain ⟨tag, given, rfl⟩ := ((names_namesOf tags).mem_iff name).1 there
    exact (known tag given).normalized_normalized
  intro name
  rw [fixed, namesOf, mem_distinct]

theorem parseTags_of_known (known : ∀ tag ∈ tags, Interest.Known tag) :
    parseTags (tags.map Json.display) = some (namesOf tags) := by
  have parsed : ∃ values : List Interest,
      (tags.map Json.display).mapM Interest.ofText? = some values ∧
        values.map Interest.value = tags.map Interest.normalized := by
    induction tags with
    | nil => exact ⟨[], rfl, rfl⟩
    | cons tag rest ih =>
      obtain ⟨first, others⟩ := List.forall_mem_cons.1 known
      obtain ⟨value, read, same⟩ := first.ofText?
      obtain ⟨values, more, names⟩ := ih others
      refine ⟨value :: values, ?_, ?_⟩
      · rw [List.map_cons, List.mapM_cons, read, more]
        rfl
      · rw [List.map_cons, List.map_cons, same, names]
  obtain ⟨values, read, names⟩ := parsed
  rw [parseTags, read, Option.map_some, names, namesOf]

theorem parseTags_of_unknown (unknown : ∃ tag ∈ tags, ¬ Interest.Known tag) :
    parseTags (tags.map Json.display) = none := by
  obtain ⟨tag, there, unknown⟩ := unknown
  exact parseTags_eq_none
    ⟨tag.display, List.mem_map_of_mem there, Interest.ofText?_of_not_known unknown⟩

/-! ## How tags are shown -/

/-- Tags in ascending order of their texts; no tags are as good as no user. -/
inductive Shows (names : List String) : Response → Prop
  | nothing (empty : names = []) :
    Shows names (.fail 404 "User interests not found" (.plain (.arr [])))
  | ascending {listed : List Json} (filled : names ≠ []) (members : listed.Perm (names.map .str))
      (sorted : listed.Pairwise Json.Before) :
    Shows names (.ok "User interests fetched successfully" (.plain (.arr listed)))

theorem nodup_texts (nodup : names.Nodup) : (names.map Json.str).Nodup :=
  List.pairwise_map.2 (nodup.imp fun differ same => differ (Json.str.inj same))

theorem shows_sortTexts (filled : names ≠ []) (nodup : names.Nodup) :
    Shows names (.ok "User interests fetched successfully"
      (.plain (.arr (Json.sortTexts (names.map .str))))) :=
  .ascending filled (List.mergeSort_perm _ _) (Json.pairwise_sortTexts (nodup_texts nodup))

theorem Shows.congr {r : Response} (h : Shows names r) (same : names.Perm names') :
    Shows names' r := by
  cases h with
  | nothing empty => exact .nothing (List.perm_nil.1 (empty ▸ same).symm)
  | ascending filled members sorted =>
    refine .ascending (fun empty => filled ?_) (members.trans (same.map _)) sorted
    exact List.perm_nil.1 (empty ▸ same)

/-- There is one way to show a set of tags. -/
theorem Shows.unique {r r' : Response} (h : Shows names r) (h' : Shows names r') : r = r' := by
  cases h with
  | nothing empty =>
    cases h' with
    | nothing _ => rfl
    | ascending filled _ _ => exact absurd empty filled
  | @ascending listed filled members sorted =>
    cases h' with
    | nothing empty => exact absurd empty filled
    | @ascending listed' _ members' sorted' =>
      -- Both are ascending and have the same members.
      have same : listed = listed' := by
        refine List.Perm.eq_of_pairwise ?_ sorted sorted' (members.trans members'.symm)
        intro a b ha hb before after
        obtain ⟨_, -, rfl⟩ := List.mem_map.1 (members.subset ha)
        obtain ⟨_, -, rfl⟩ := List.mem_map.1 (members'.subset hb)
        exact congrArg Json.str (Json.eq_of_textAtMost before.1 after.1)
      rw [same]

end Interests

/-! ## Tags in the stores -/

namespace Graph

theorem interestsOf_setInterests (g : Graph) (userId other : UserId) (tags : List Json) :
    (g.setInterests other tags).interestsOf userId =
      if userId = other then distinct tags else g.interestsOf userId := by
  have looked : (g.setInterests other tags).interests.lookup userId =
      if userId = other then some (distinct tags) else g.interests.lookup userId := by
    rw [← lookup_put]
    unfold setInterests
    dsimp only
    split <;> rfl
  rw [interestsOf, looked]
  split <;> rfl

theorem interestsOf_setInterests_texts (g : Graph) (userId : UserId) {names : List String}
    (nodup : names.Nodup) :
    (g.setInterests userId (names.map .str)).interestsOf userId = names.map .str := by
  rw [interestsOf_setInterests, if_pos rfl, distinct_of_nodup (Interests.nodup_texts nodup)]

end Graph

namespace World

open Interests

variable {w : World} {userId : UserId} {tags : List Json} {names : List String}

/-- A user who is stored and has these tags, in any order. -/
structure HasTags (w : World) (userId : UserId) (names : List String) : Prop where
  stored : w.graph.hasUser userId = true
  held : ∃ held : List String, w.graph.interestsOf userId = held.map .str ∧ held.Perm names

theorem HasTags.congr {names' : List String} (h : w.HasTags userId names)
    (same : names.Perm names') : w.HasTags userId names' := by
  obtain ⟨stored, held, there, perm⟩ := h
  exact ⟨stored, held, there, perm.trans same⟩

/-! ### One call -/

/-- The write, on stores with a log or without one. -/
theorem on_setUserInterests {b : Backend World} (answers : b.answer = answer) (w : World)
    (hashable : userId.requireHashable = .ok ()) (names : List String) :
    (Ask.setUserInterests userId (ofTexts names)).holds.on b w =
      if w.graph.hasUser userId then
        (.ok true, { w with graph := w.graph.setInterests userId (names.map .str) })
      else (.ok false, w) := by
  have texts : (names.map Json.str).forM Json.requireHashable = .ok () := by
    induction names with
    | nil => rfl
    | cons name rest ih => exact ih
  have read : Graph.readTags (ofTexts names) = .ok (names.map .str) := by
    show Except.bind ((names.map Json.str).forM Json.requireHashable) _ = _
    rw [texts]
    rfl
  rw [Attempt.holds, Attempt.on_map, Ask.setUserInterests, Attempt.on_call, answers]
  show ((w.graph.written _).1.map _, { w with graph := (w.graph.written _).2 }) = _
  cases stored : w.graph.hasUser userId with
  | false =>
    have nothing : w.graph.replaceInterests userId (ofTexts names) = .ok none := by
      simp [Graph.replaceInterests, Graph.lookUp, hashable, stored, bind, pure, Except.bind,
        Except.pure]
    rw [nothing]
    rfl
  | true =>
    have replaced : w.graph.replaceInterests userId (ofTexts names) =
        .ok (some (w.graph.setInterests userId (names.map .str))) := by
      simp [Graph.replaceInterests, Graph.lookUp, hashable, stored, read, bind, pure, Except.bind,
        Except.pure]
    rw [replaced]
    rfl

/-- To set known tags of a user who is stored replaces them, and does nothing else. -/
theorem on_set_known (hashable : userId.requireHashable = .ok ())
    (known : ∀ tag ∈ tags, Interest.Known tag) (stored : w.graph.hasUser userId = true) :
    ∃ v, (Interests.set userId (.arr tags)).on backend w =
        (.ok (.ok "User interests created successfully" (.plain (ofTexts (namesOf tags)))), v) ∧
      v.graph = w.graph.setInterests userId ((namesOf tags).map .str) ∧
      v.unlogged = { w with graph := v.graph }.unlogged := by
  -- The run is computed on stores without a log: its entry is the only other thing written.
  have silently : (Interests.set userId (.arr tags)).on silent w =
      (.ok (.ok "User interests created successfully" (.plain (ofTexts (namesOf tags)))),
        { w with graph := w.graph.setInterests userId ((namesOf tags).map .str) }) := by
    unfold Interests.set
    simp only [readTags_arr, parseTags_of_known known, Attempt.on_bind, Attempt.on_ofExcept,
      Attempt.on_always, Attempt.run_catching, on_setUserInterests (b := silent) rfl w hashable,
      stored, if_true, Attempt.on_log, silent_record, Attempt.on_pure]
  obtain ⟨v, answered, unlogged⟩ := on_backend_of_silent silently
  have graph : v.graph = w.graph.setInterests userId ((namesOf tags).map .str) :=
    congrArg World.graph unlogged
  exact ⟨v, answered, graph, graph ▸ unlogged⟩

theorem on_set_absent (hashable : userId.requireHashable = .ok ())
    (known : ∀ tag ∈ tags, Interest.Known tag) (absent : w.graph.hasUser userId = false) :
    (Interests.set userId (.arr tags)).on backend w = (.ok (.notFound "User not found"), w) := by
  unfold Interests.set
  simp only [readTags_arr, parseTags_of_known known, Attempt.on_bind, Attempt.on_ofExcept,
    Attempt.on_always, Attempt.run_catching, on_setUserInterests (b := backend) rfl w hashable,
    absent, Bool.false_eq_true, if_false, Attempt.on_pure]

theorem on_set_unknown (userId : UserId) (w : World)
    (unknown : ∃ tag ∈ tags, ¬ Interest.Known tag) :
    (Interests.set userId (.arr tags)).on backend w =
      (.ok (.badRequest "Unknown interest"), w) := by
  unfold Interests.set
  simp only [readTags_arr, parseTags_of_unknown unknown, Attempt.on_bind, Attempt.on_ofExcept,
    Attempt.on_pure]

/-- Whatever tags a user had, after known ones were set it has those. -/
theorem hasTags_set (hashable : userId.requireHashable = .ok ())
    (known : ∀ tag ∈ tags, Interest.Known tag) (stored : w.graph.hasUser userId = true) :
    ((Interests.set userId (.arr tags)).on backend w).2.HasTags userId (namesOf tags) := by
  obtain ⟨v, answered, graph, -⟩ := on_set_known hashable known stored
  rw [answered]
  refine ⟨?_, namesOf tags, ?_, .refl _⟩
  · rwa [graph, Graph.hasUser, Graph.users_setInterests]
  · rw [graph, Graph.interestsOf_setInterests_texts _ _ (names_namesOf tags).nodup]

theorem run_stored (w : World) (hashable : userId.requireHashable = .ok ()) :
    (Interests.stored userId).run backend w =
      (.ok (.plain (.arr (w.graph.interestsOf userId))), w) := by
  have asked : (Ask.listUserInterests userId).on backend w =
      (.ok (.plain (.arr (w.graph.interestsOf userId))), w) := by
    show (Except.bind userId.requireHashable _, w) = _
    rw [hashable]
    rfl
  rw [Interests.stored, Attempt.run_catching, Attempt.on_map, asked]
  rfl

/-- What a user with some tags is shown. -/
theorem HasTags.get (h : w.HasTags userId names) (hashable : userId.requireHashable = .ok ())
    (nodup : names.Nodup) :
    ∃ listing, Shows names listing ∧
      ((Interests.get userId).on backend w).1 = .ok listing := by
  obtain ⟨-, held, there, perm⟩ := h
  have texts : ∀ tag ∈ held.map Json.str, tag.isText = true := by
    intro tag given
    obtain ⟨name, -, rfl⟩ := List.mem_map.1 given
    rfl
  unfold Interests.get
  simp only [Attempt.on_bind, Attempt.on_always, run_stored w hashable, there, Attempt.on_ite,
    Attempt.on_ofExcept, ascending_of_texts texts, Attempt.on_pure]
  cases held with
  | nil => exact ⟨_, .nothing (List.nil_perm.1 perm), rfl⟩
  | cons name rest =>
    have filled : name :: rest ≠ [] := List.cons_ne_nil _ _
    exact ⟨_, (shows_sortTexts filled (perm.nodup_iff.2 nodup)).congr perm, rfl⟩

/-! ### Some calls -/

/-- The stores after the tags of a user were set some more times. -/
def retagged (w : World) (userId : UserId) : List (List Json) → World
  | [] => w
  | tags :: rest =>
    ((Interests.set userId (.arr tags)).on backend w).2.retagged userId rest

/-- To set the same tags again leaves them there, whatever their order. -/
theorem HasTags.retagged {calls : List (List Json)} (h : w.HasTags userId (namesOf tags))
    (hashable : userId.requireHashable = .ok ()) (known : ∀ tag ∈ tags, Interest.Known tag)
    (same : ∀ again ∈ calls, NameSame again tags) :
    (w.retagged userId calls).HasTags userId (namesOf tags) := by
  -- What a call finds does not matter to what it leaves, so one call gives the tags once more, in
  -- an order of its own.
  induction calls generalizing w with
  | nil => exact h
  | cons again rest ih =>
    obtain ⟨first, others⟩ := List.forall_mem_cons.1 same
    exact ih ((hasTags_set hashable (first.known known) h.stored).congr first.perm) others

end World

namespace Interests

open World (backend)

/-- **To set a user's tags replaces them by what the texts name.** Where every text names a tag and
the user is stored, the answer is the tags that they name, each once and in the order in which it
is first named. The user has these and no others from before; the users, the edges and everybody
else's tags stay as they were, and so does all that is not in the graph but for the log. What the
user is shown afterwards is the tags in ascending order, or that there are none. It stays the same
when tags are set again any number of times, by texts that name the same: the given ones or the
answer, in any order and with any repetitions. Where the user is not stored, or some text names no
tag, nothing changes at all. -/
theorem set_replaces (userId : UserId) (text : userId.isText = true) (w : World)
    (tags : List Json) :
    ((∀ tag ∈ tags, Interest.Known tag) → w.graph.hasUser userId = true →
      Names tags (namesOf tags) ∧
      ∃ v, (set userId (.arr tags)).on backend w =
          (.ok (.ok "User interests created successfully" (.plain (ofTexts (namesOf tags)))), v) ∧
        v.graph.interestsOf userId = (namesOf tags).map .str ∧
        (∀ other, other ≠ userId → v.graph.interestsOf other = w.graph.interestsOf other) ∧
        v.graph.users = w.graph.users ∧ v.graph.edges = w.graph.edges ∧
        v.unlogged = { w with graph := v.graph }.unlogged ∧
        NameSame ((namesOf tags).map .str) tags ∧
        ∃ listing, Shows (namesOf tags) listing ∧
          ∀ calls, (∀ again ∈ calls, NameSame again tags) →
            ((get userId).on backend (v.retagged userId calls)).1 = .ok listing) ∧
    ((∀ tag ∈ tags, Interest.Known tag) → w.graph.hasUser userId = false →
      (set userId (.arr tags)).on backend w = (.ok (.notFound "User not found"), w)) ∧
    ((∃ tag ∈ tags, ¬ Interest.Known tag) →
      (set userId (.arr tags)).on backend w = (.ok (.badRequest "Unknown interest"), w)) := by
  have hashable := Json.requireHashable_of_isText text
  refine ⟨fun known stored => ⟨names_namesOf tags, ?_⟩, World.on_set_absent hashable,
    World.on_set_unknown userId w⟩
  obtain ⟨v, answered, graph, unlogged⟩ := World.on_set_known hashable known stored
  have has : v.HasTags userId (namesOf tags) := by
    have left := World.hasTags_set hashable known stored
    rwa [answered] at left
  obtain ⟨listing, shows, shown⟩ := has.get hashable (names_namesOf tags).nodup
  refine ⟨v, answered, ?_, ?_, ?_, ?_, unlogged, nameSame_namesOf known, listing, shows, ?_⟩
  · rw [graph, Graph.interestsOf_setInterests_texts _ _ (names_namesOf tags).nodup]
  · intro other differ
    rw [graph, Graph.interestsOf_setInterests, if_neg differ]
  · rw [graph, Graph.users_setInterests]
  · rw [graph, Graph.edges_setInterests]
  · intro calls same
    obtain ⟨listing', shows', shown'⟩ :=
      (has.retagged hashable known same).get hashable (names_namesOf tags).nodup
    rw [shown', shows.unique shows']

/-- Ann, with a tag, and Bob. -/
def travellers : World :=
  { World.empty with
    graph := Graph.empty.after (["ann", "bob"].filterMap Graph.newUser? ++
      [.setUserInterests (.str "ann") (.arr [.str "travel"]),
       .setUserInterests (.str "bob") (.arr [.str "travel"])]) }

/-- Ann is given two tags, one of them named twice, and then the same ones again. -/
theorem set_replaces_travellers :
    let tags : List Json := [.str " Music", .str "AI", .str "music"]
    (∀ tag ∈ tags, Interest.Known tag) ∧
    (∃ v, (set (.str "ann") (.arr tags)).on backend travellers =
        (.ok (.ok "User interests created successfully"
          (.plain (.arr [.str "music", .str "ai"]))), v) ∧
      v.graph.interestsOf (.str "ann") = [.str "music", .str "ai"] ∧
      v.graph.interestsOf (.str "bob") = [.str "travel"] ∧
      ((get (.str "ann")).on backend
        (v.retagged (.str "ann") [[.str "ai", .str "Music ", .str "ai"],
          [.str "music", .str "ai"]])).1 =
        .ok (.ok "User interests fetched successfully"
          (.plain (.arr [.str "ai", .str "music"])))) ∧
    (set (.str "eve") (.arr tags)).on backend travellers =
      (.ok (.notFound "User not found"), travellers) ∧
    (set (.str "ann") (.arr (tags ++ [.str "mus ic"]))).on backend travellers =
      (.ok (.badRequest "Unknown interest"), travellers) := by
  intro tags
  have values : tags.map Interest.normalized = ["music", "ai", "music"] := by decide
  have known : ∀ tag ∈ tags, Interest.Known tag := by
    intro tag there
    have valued := List.mem_map_of_mem (f := Interest.normalized) there
    rw [values, show ["music", "ai", "music"] = [Interest.music, .ai, .music].map Interest.value
      from rfl] at valued
    obtain ⟨value, -, same⟩ := List.mem_map.1 valued
    exact ⟨value, same⟩
  have names : namesOf tags = ["music", "ai"] := by decide
  obtain ⟨replaced, -, -⟩ := set_replaces (.str "ann") rfl travellers tags
  obtain ⟨-, absent, -⟩ := set_replaces (.str "eve") rfl travellers tags
  obtain ⟨-, -, refused⟩ := set_replaces (.str "ann") rfl travellers (tags ++ [.str "mus ic"])
  obtain ⟨-, v, answered, held, others, -, -, -, own, listing, shows, shown⟩ :=
    replaced known (by decide)
  rw [names] at answered held own shows
  refine ⟨known, ⟨v, answered, held, ?_, ?_⟩, absent known (by decide), refused ?_⟩
  · exact (others _ (by decide)).trans (by decide)
  · have ascending : Shows ["music", "ai"] (.ok "User interests fetched successfully"
        (.plain (.arr [.str "ai", .str "music"]))) :=
      .ascending (by decide) (.swap _ _ _) (by decide)
    have shuffled : NameSame [.str "ai", .str "Music ", .str "ai"] tags := by
      intro name
      rw [values, show [Json.str "ai", .str "Music ", .str "ai"].map Interest.normalized =
        ["ai", "music", "ai"] by decide]
      grind
    rw [← shows.unique ascending]
    refine shown _ fun again there => ?_
    rcases List.mem_cons.1 there with rfl | last
    · exact shuffled
    · exact List.mem_singleton.1 last ▸ own
  · refine ⟨.str "mus ic", by simp, ?_⟩
    rintro ⟨tag, same⟩
    cases tag <;> exact absurd same (by decide)

end Interests
end FollowGraph
