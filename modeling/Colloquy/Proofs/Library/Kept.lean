import Colloquy.Library.Run

/-!
# What a library keeps

Keeping dialogues is meant not to show: what is handed out is what reading the script gives, or the
fallback. The specification here knows nothing of what is kept. `shelf` is what the scripts are at a
point of a run and `dialogueIn` what reading one of them gives; `ReadSince` says that a load read
the dialogue of a character since it was last dropped, and `FirstRead` which load was the first to
do so. What one request does is told for any source (`get?_kept_respond`). In a run over scripts in
memory a library keeps just the editions of first reads (`Keeps`, step by step and then for the
run), from which everything about a load follows (`load_transparent`).
-/

namespace Colloquy

namespace Library

/-! ## Without anything kept -/

/-- What the scripts are after requests. -/
def shelf (scripts : TextMap String) (requests : List Request) : TextMap String :=
  requests.foldl (fun scripts request =>
    match request with
    | .putScript npc script => scripts.insert npc script
    | .load _ | .tryLoad _ | .isKept _ | .invalidate _ | .clear => scripts) scripts

/-- What reading the script of a character gives. -/
def dialogueIn (settings : LibrarySettings) (scripts : TextMap String) (npc : String) :
    Except LoadError Graph :=
  match scripts.get? npc with
  | none => .error (.notFound npc)
  | some script => (Script.read settings.hero script).value.mapError (.unusable npc)

/-- What reading it gives, wherever the scripts come from. -/
def dialogueFrom (settings : LibrarySettings) (source : Source) (npc : String) :
    Except LoadError Graph :=
  match (source.fetch npc).value with
  | .error e => .error e
  | .ok script => (Script.read settings.hero script).value.mapError (.unusable npc)

/-- The dialogue, or the fallback if there is none. -/
def orFallback (settings : LibrarySettings) : Except LoadError Graph → Graph
  | .ok graph => graph
  | .error _ => Graph.fallback settings.fallbackText

/-- Whether a request drops what is kept for a character. -/
def Request.drops (npc : String) : Request → Bool
  | .invalidate other => other = npc
  | .clear => true
  | .load _ | .tryLoad _ | .isKept _ | .putScript .. => false

/-- The character that a request is about. -/
def Request.npc? : Request → Option String
  | .load npc | .tryLoad npc | .isKept npc | .invalidate npc | .putScript npc _ => some npc
  | .clear => none

section Run

variable (scripts : TextMap String) (settings : LibrarySettings)

/-- A load behind the first requests read a dialogue of the character that was not dropped since. -/
structure ReadAt (requests : List Request) (npc : String) (first : List Request) (graph : Graph) :
    Prop where
  since : ∃ later, requests = first ++ .load npc :: later ∧
    ∀ request ∈ later, request.drops npc = false
  reads : dialogueIn settings (shelf scripts first) npc = .ok graph

/-- A load read a dialogue of the character since it was last dropped. -/
def ReadSince (requests : List Request) (npc : String) : Prop :=
  ∃ first graph, ReadAt scripts settings requests npc first graph

/-- It is the first load to do so. -/
structure FirstRead (requests : List Request) (npc : String) (first : List Request)
    (graph : Graph) : Prop extends ReadAt scripts settings requests npc first graph where
  earliest : ¬ ReadSince scripts settings first npc

end Run

variable {scripts : TextMap String} {settings : LibrarySettings} {requests first : List Request}
  {request : Request} {npc : String} {graph : Graph} {l : Library}

/-- One more request keeps what was read, unless it drops it. -/
theorem ReadAt.snoc (h : ReadAt scripts settings requests npc first graph)
    (hkept : request.drops npc = false) :
    ReadAt scripts settings (requests ++ [request]) npc first graph where
  since := by
    obtain ⟨later, rfl, hlater⟩ := h.since
    refine ⟨later ++ [request], by rw [List.append_assoc, List.cons_append], fun r hr => ?_⟩
    rcases List.mem_append.1 hr with hr | hr
    · exact hlater r hr
    · rwa [List.mem_singleton.1 hr]
  reads := h.reads

/-- **What was read since the last drop after one more request**: what was read before it, or what
it reads. -/
theorem readAt_snoc :
    ReadAt scripts settings (requests ++ [request]) npc first graph ↔
      (request.drops npc = false ∧ ReadAt scripts settings requests npc first graph) ∨
        (request = .load npc ∧ first = requests ∧
          dialogueIn settings (shelf scripts requests) npc = .ok graph) := by
  constructor
  · rintro ⟨⟨later, hsplit, hlater⟩, hreads⟩
    obtain rfl | ⟨later, last, rfl⟩ := later.eq_nil_or_concat
    · obtain ⟨rfl, hlast⟩ := List.append_inj' hsplit rfl
      exact .inr ⟨(List.cons.inj hlast).1, rfl, hreads⟩
    · rw [List.concat_eq_append, ← List.cons_append, ← List.append_assoc] at hsplit
      obtain ⟨rfl, hlast⟩ := List.append_inj' hsplit rfl
      obtain rfl := (List.cons.inj hlast).1
      have hsince : ∀ r ∈ later, r.drops npc = false := fun r hr => hlater r (by simp [hr])
      exact .inl ⟨hlater request (by simp), ⟨later, rfl, hsince⟩, hreads⟩
  · rintro (⟨hkept, h⟩ | ⟨rfl, rfl, hreads⟩)
    · exact h.snoc hkept
    · exact ⟨⟨[], rfl, by simp⟩, hreads⟩

/-! ## What a load does -/

theorem value_readFor (settings : LibrarySettings) (npc script : String) :
    (readFor settings npc script).value =
      (Script.read settings.hero script).value.mapError (.unusable npc) := by
  unfold readFor
  cases hread : (Script.read settings.hero script).value with
  | ok | error =>
    simp only [hread]
    rfl

theorem dialogueFrom_memory (settings : LibrarySettings) (scripts : TextMap String) (npc : String) :
    dialogueFrom settings (.memory scripts) npc = dialogueIn settings scripts npc := by
  unfold dialogueFrom dialogueIn Source.fetch
  cases hscript : scripts.get? npc <;> simp [hscript]

/-- Trying to load is reading the script that the source has. -/
theorem value_tryLoad (l : Library) (npc : String) :
    (l.tryLoad npc).value =
      (dialogueFrom l.settings l.source npc, { l with fetches := l.fetches + 1 }) := by
  unfold tryLoad dialogueFrom
  cases hfetch : (l.source.fetch npc).value <;> simp [hfetch, value_readFor]

/-- What is kept is handed out. -/
theorem value_load_of_kept {edition : Edition} (hkept : l.kept.get? npc = some edition) :
    (l.load npc).value = (edition, l) := by
  unfold load
  simp [hkept]

/-- What is not kept is read, and kept if there is a dialogue. -/
theorem value_load_of_not_kept (hkept : l.kept.get? npc = none) :
    (l.load npc).value =
      (⟨l.editions, orFallback l.settings (dialogueFrom l.settings l.source npc)⟩,
        { l with
          fetches := l.fetches + 1
          editions := l.editions + 1
          kept := match dialogueFrom l.settings l.source npc with
            | .ok graph => l.kept.insert npc ⟨l.editions, graph⟩
            | .error _ => l.kept }) := by
  have htried := l.value_tryLoad npc
  unfold load
  simp only [hkept, Noted.value_bind, htried]
  cases dialogueFrom l.settings l.source npc <;> rfl

/-! ## What is kept -/

/-- **What is kept for a character after a request**: nothing if the request drops it, what was kept
before if there was anything, and else what a load of it reads. -/
theorem get?_kept_respond (l : Library) (request : Request) (npc : String) :
    (l.respond request).value.2.kept.get? npc =
      if request.drops npc then none
      else (l.kept.get? npc).or
        (if request = .load npc then
          (dialogueFrom l.settings l.source npc).toOption.map (⟨l.editions, ·⟩)
        else none) := by
  cases request with
  | load other =>
    show (l.load other).value.2.kept.get? npc = _
    cases hkept : l.kept.get? other with
    | some edition =>
      rw [value_load_of_kept hkept]
      by_cases hother : other = npc
      · subst hother
        simp [hkept, Request.drops]
      · simp [hother, Request.drops]
    | none =>
      rw [value_load_of_not_kept hkept]
      by_cases hother : other = npc
      · subst hother
        cases dialogueFrom l.settings l.source other <;>
          simp [hkept, Request.drops, TextMap.get?_insert, Except.toOption]
      · cases dialogueFrom l.settings l.source other <;>
          simp [hother, Request.drops, TextMap.get?_insert]
  | tryLoad other =>
    show (l.tryLoad other).value.2.kept.get? npc = _
    simp [value_tryLoad, Request.drops]
  | invalidate other =>
    show (l.kept.erase other).get? npc = _
    by_cases hother : other = npc <;> simp [TextMap.get?_erase, hother, Request.drops]
  | isKept | clear | putScript => simp [respond, clear, Request.drops]

/-- **What is asked about one character leaves what is kept for another alone.** -/
theorem get?_kept_respond_of_ne {other : String} (hrequest : request.npc? = some npc)
    (hne : other ≠ npc) : (l.respond request).value.2.kept.get? other = l.kept.get? other := by
  have hdrops : request.drops other = false := by
    cases request <;> simp_all [Request.drops, Request.npc?, Ne.symm hne]
  have hload : request ≠ .load other := by
    rintro rfl
    exact hne (Option.some.inj hrequest)
  rw [get?_kept_respond, hdrops, if_neg hload]
  simp

/-- The source after a request. -/
def Request.restock (source : Source) : Request → Source
  | .putScript npc script => source.put npc script
  | .load _ | .tryLoad _ | .isKept _ | .invalidate _ | .clear => source

/-- A request may replace a script, and leaves the settings alone. -/
theorem source_respond (l : Library) (request : Request) :
    (l.respond request).value.2.source = request.restock l.source ∧
      (l.respond request).value.2.settings = l.settings := by
  cases request with
  | load npc =>
    show (l.load npc).value.2.source = _ ∧ (l.load npc).value.2.settings = _
    cases hkept : l.kept.get? npc with
    | some edition => rw [value_load_of_kept hkept]; exact ⟨rfl, rfl⟩
    | none => rw [value_load_of_not_kept hkept]; exact ⟨rfl, rfl⟩
  | tryLoad npc =>
    show (l.tryLoad npc).value.2.source = _ ∧ (l.tryLoad npc).value.2.settings = _
    rw [value_tryLoad]
    exact ⟨rfl, rfl⟩
  | isKept | invalidate | clear | putScript => exact ⟨rfl, rfl⟩

theorem restock_memory (scripts : TextMap String) (request : Request) :
    request.restock (.memory scripts) = .memory (shelf scripts [request]) := by
  cases request <;> rfl

/-- Numbers are given out in order. -/
theorem editions_le_respond (l : Library) (request : Request) :
    l.editions ≤ (l.respond request).value.2.editions := by
  cases request with
  | load npc =>
    show l.editions ≤ (l.load npc).value.2.editions
    cases hkept : l.kept.get? npc with
    | some edition => simp [value_load_of_kept hkept]
    | none => simp [value_load_of_not_kept hkept]
  | tryLoad npc =>
    show l.editions ≤ (l.tryLoad npc).value.2.editions
    simp [value_tryLoad]
  | isKept | invalidate | clear | putScript => exact Nat.le_refl _

/-- A library keeps just the editions of first reads, and no later edition has their numbers. -/
structure Keeps (scripts : TextMap String) (settings : LibrarySettings) (requests : List Request)
    (l : Library) : Prop where
  reached : (fresh scripts settings).after requests = l
  source : l.source = .memory (shelf scripts requests)
  settings_eq : l.settings = settings
  absent : ∀ npc, l.kept.get? npc = none → ¬ ReadSince scripts settings requests npc
  present : ∀ npc edition, l.kept.get? npc = some edition →
    ∃ first, FirstRead scripts settings requests npc first edition.graph ∧
      (((fresh scripts settings).after first).load npc).value.1 = edition
  numbered : ∀ npc edition, l.kept.get? npc = some edition → edition.number < l.editions

theorem keeps_fresh (scripts : TextMap String) (settings : LibrarySettings) :
    Keeps scripts settings [] (fresh scripts settings) where
  reached := rfl
  source := rfl
  settings_eq := rfl
  absent := by
    rintro npc - ⟨first, graph, ⟨later, hsplit, -⟩, -⟩
    simp at hsplit
  present := by
    rintro npc edition hkept
    cases hkept
  numbered := by
    rintro npc edition hkept
    cases hkept

theorem Keeps.dialogueFrom_eq (h : Keeps scripts settings requests l) (npc : String) :
    dialogueFrom l.settings l.source npc = dialogueIn settings (shelf scripts requests) npc := by
  rw [h.settings_eq, h.source, dialogueFrom_memory]

/-- What is kept after a request was kept before it, or it is what the request read. -/
theorem Keeps.kept_respond (h : Keeps scripts settings requests l) {edition : Edition}
    (hkept : (l.respond request).value.2.kept.get? npc = some edition) :
    request.drops npc = false ∧ (l.kept.get? npc = some edition ∨
      l.kept.get? npc = none ∧ request = .load npc ∧ edition.number = l.editions ∧
        dialogueIn settings (shelf scripts requests) npc = .ok edition.graph) := by
  rw [get?_kept_respond, h.dialogueFrom_eq] at hkept
  obtain ⟨hdrops, hkept⟩ := Option.ite_none_left_eq_some.1 hkept
  refine ⟨Bool.eq_false_iff.2 hdrops, ?_⟩
  cases hbefore : l.kept.get? npc with
  | some before =>
    rw [hbefore] at hkept
    exact .inl hkept
  | none =>
    rw [hbefore, Option.none_or] at hkept
    obtain ⟨hload, hread⟩ := Option.ite_none_right_eq_some.1 hkept
    obtain ⟨graph, hgraph, rfl⟩ := Option.map_eq_some_iff.1 hread
    refine .inr ⟨rfl, hload, rfl, ?_⟩
    cases hdialogue : dialogueIn settings (shelf scripts requests) npc with
    | ok found => rw [hdialogue] at hgraph; rw [Option.some.inj hgraph]
    | error => rw [hdialogue] at hgraph; cases hgraph

/-- **One more request keeps to it.** -/
theorem Keeps.respond (h : Keeps scripts settings requests l) (request : Request) :
    Keeps scripts settings (requests ++ [request]) (l.respond request).value.2 where
  reached := by rw [after_snoc, h.reached]
  source := by
    rw [(source_respond l request).1, h.source, restock_memory, shelf, shelf, shelf,
      List.foldl_append]
  settings_eq := by rw [(source_respond l request).2, h.settings_eq]
  absent := by
    rintro npc hkept ⟨first, graph, hread⟩
    rw [get?_kept_respond, h.dialogueFrom_eq] at hkept
    rcases readAt_snoc.1 hread with ⟨hdrops, hbefore⟩ | ⟨rfl, rfl, hnow⟩
    · -- what was read before is kept, and nothing dropped it
      rw [hdrops, if_neg Bool.false_ne_true, Option.or_eq_none_iff] at hkept
      exact h.absent npc hkept.1 ⟨first, graph, hbefore⟩
    · rw [hnow] at hkept
      simp [Request.drops, Except.toOption] at hkept
  present := by
    intro npc edition hkept
    obtain ⟨hdrops, hbefore | ⟨hbefore, rfl, hnumber, hread⟩⟩ := h.kept_respond hkept
    · obtain ⟨first, hfirst, hload⟩ := h.present npc edition hbefore
      exact ⟨first, ⟨hfirst.toReadAt.snoc hdrops, hfirst.earliest⟩, hload⟩
    · refine ⟨requests, ⟨readAt_snoc.2 (.inr ⟨rfl, rfl, hread⟩), h.absent npc hbefore⟩, ?_⟩
      rw [h.reached, value_load_of_not_kept hbefore, h.dialogueFrom_eq, hread, ← hnumber]
      rfl
  numbered := by
    intro npc edition hkept
    obtain ⟨hdrops, hbefore | ⟨hbefore, rfl, hnumber, hread⟩⟩ := h.kept_respond hkept
    · exact Nat.lt_of_lt_of_le (h.numbered npc edition hbefore) (editions_le_respond l _)
    · show edition.number < (l.load npc).value.2.editions
      rw [value_load_of_not_kept hbefore, hnumber]
      exact Nat.lt_succ_self _

/-- **Every run keeps to it.** -/
theorem Keeps.after (h : Keeps scripts settings first l) (later : List Request) :
    Keeps scripts settings (first ++ later) (l.after later) := by
  induction later generalizing first l with
  | nil =>
    rw [List.append_nil]
    exact h
  | cons request rest ih =>
    rw [List.append_cons]
    exact ih (h.respond request)

theorem keeps_after (scripts : TextMap String) (settings : LibrarySettings)
    (requests : List Request) :
    Keeps scripts settings requests ((fresh scripts settings).after requests) :=
  (keeps_fresh scripts settings).after requests

/-! ## What a load hands out -/

theorem Keeps.editions_le_after (h : Keeps scripts settings first l) (later : List Request) :
    l.editions ≤ (l.after later).editions := by
  induction later generalizing first l with
  | nil => exact Nat.le_refl _
  | cons request rest ih =>
    exact Nat.le_trans (editions_le_respond l request) (ih (h.respond request))

/-- What a load hands out has a number that no later edition has. -/
theorem Keeps.number_lt (h : Keeps scripts settings first l) (npc : String)
    (later : List Request) :
    (l.load npc).value.1.number < (l.after (.load npc :: later)).editions := by
  have hnumber : (l.load npc).value.1.number < (l.load npc).value.2.editions := by
    cases hkept : l.kept.get? npc with
    | some edition =>
      rw [value_load_of_kept hkept]
      exact h.numbered npc edition hkept
    | none =>
      rw [value_load_of_not_kept hkept]
      exact Nat.lt_succ_self _
  exact Nat.lt_of_lt_of_le hnumber ((h.respond (.load npc)).editions_le_after later)

/-- A dialogue is kept just if it was read since the last drop. -/
theorem Keeps.isSome_iff (h : Keeps scripts settings requests l) (npc : String) :
    (l.kept.get? npc).isSome ↔ ReadSince scripts settings requests npc := by
  cases hkept : l.kept.get? npc with
  | some edition =>
    obtain ⟨first, hfirst, -⟩ := h.present npc edition hkept
    exact ⟨fun _ => ⟨first, edition.graph, hfirst.toReadAt⟩, fun _ => rfl⟩
  | none => exact ⟨nofun, fun hread => absurd hread (h.absent npc hkept)⟩

/-- A dialogue that was read since the last drop is handed out as it was first. -/
theorem Keeps.load_of_readSince (h : Keeps scripts settings requests l)
    (hread : ReadSince scripts settings requests npc) :
    (l.load npc).value.2 = l ∧
      ∃ first, FirstRead scripts settings requests npc first (l.load npc).value.1.graph ∧
        (((fresh scripts settings).after first).load npc).value.1 = (l.load npc).value.1 := by
  obtain ⟨edition, hkept⟩ := Option.isSome_iff_exists.1 ((h.isSome_iff npc).2 hread)
  rw [value_load_of_kept hkept]
  exact ⟨rfl, h.present npc edition hkept⟩

/-- Any other is read now. -/
theorem Keeps.load_of_not_readSince (h : Keeps scripts settings requests l)
    (hread : ¬ ReadSince scripts settings requests npc) :
    (l.load npc).value.1 =
        ⟨l.editions, orFallback settings (dialogueIn settings (shelf scripts requests) npc)⟩ ∧
      (l.load npc).value.2.fetches = l.fetches + 1 ∧
      ((l.load npc).value.2.isKept npc = true ↔
        ∃ graph, dialogueIn settings (shelf scripts requests) npc = .ok graph) := by
  have hkept : l.kept.get? npc = none :=
    Option.not_isSome_iff_eq_none.1 fun hsome => hread ((h.isSome_iff npc).1 hsome)
  rw [value_load_of_not_kept hkept, h.dialogueFrom_eq, h.settings_eq]
  refine ⟨rfl, rfl, ?_⟩
  cases dialogueIn settings (shelf scripts requests) npc with
  | ok graph => simp [isKept, TextMap.contains, TextMap.get?_insert]
  | error e => simp [isKept, TextMap.contains, hkept]

/-- While the script of a character stays the same, whatever was read of it is what is read now. -/
theorem ReadAt.reads_of_same (h : ReadAt scripts settings requests npc first graph)
    (hsame : ∀ first later, requests = first ++ later →
      (shelf scripts first).get? npc = (shelf scripts requests).get? npc) :
    dialogueIn settings (shelf scripts requests) npc = .ok graph := by
  obtain ⟨later, hsplit, -⟩ := h.since
  rw [← h.reads, dialogueIn, dialogueIn, hsame first _ hsplit]

/-- **Keeping dialogues does not show.** In any run of a library of scripts in memory, what a load
of a character's dialogue hands out is told by the scripts and the requests alone:

* it is the very edition of an earlier load just if a load read the dialogue since it was last
  dropped; then it is what the first such load handed out, and neither is the source asked nor
  anything changed;
* otherwise the source is asked once, and what is handed out is the dialogue in the present script,
  which is then kept, or the fallback, which is not;
* whatever is kept for any character is what the first load since the last drop read for it, and
  what is asked about one character leaves what is kept for another alone;
* trying to load gives the dialogue in the present script, and while the script stays the same a
  load hands out what trying to load gives, or the fallback. -/
theorem load_transparent (scripts : TextMap String) (settings : LibrarySettings)
    (before : List Request) (npc : String) :
    let start := fresh scripts settings
    let l := start.after before
    let edition := (l.load npc).value.1
    let l' := (l.load npc).value.2
    let present := dialogueIn settings (shelf scripts before) npc
    ((∃ first other later, before = first ++ .load other :: later ∧
        ((start.after first).load other).value.1.number = edition.number) ↔
      ReadSince scripts settings before npc) ∧
    (ReadSince scripts settings before npc →
      l' = l ∧ ∃ first, FirstRead scripts settings before npc first edition.graph ∧
        ((start.after first).load npc).value.1 = edition) ∧
    (¬ ReadSince scripts settings before npc →
      l'.fetches = l.fetches + 1 ∧ edition.graph = orFallback settings present ∧
        (l'.isKept npc = true ↔ ∃ graph, present = .ok graph)) ∧
    (∀ key kept, l.kept.get? key = some kept →
      ∃ first, FirstRead scripts settings before key first kept.graph) ∧
    (∀ request other, request.npc? = some npc → other ≠ npc →
      (l.respond request).value.2.kept.get? other = l.kept.get? other) ∧
    (l.tryLoad npc).value.1 = present ∧
    ((∀ first later, before = first ++ later →
        (shelf scripts first).get? npc = (shelf scripts before).get? npc) →
      edition.graph = orFallback settings (l.tryLoad npc).value.1) := by
  intro start l edition l' present
  have h : Keeps scripts settings before l := keeps_after scripts settings before
  have htried : (l.tryLoad npc).value.1 = present := by
    rw [value_tryLoad, h.dialogueFrom_eq]
  refine ⟨⟨?_, ?_⟩, h.load_of_readSince, fun hread => ?_, ?_, ?_, htried, fun hsame => ?_⟩
  · rintro ⟨first, other, later, rfl, hnumber⟩
    refine Classical.byContradiction fun hread => ?_
    -- what is read now has a number of its own
    have hnew : edition.number = l.editions :=
      congrArg Edition.number (h.load_of_not_readSince hread).1
    have hlt := (keeps_after scripts settings first).number_lt other later
    rw [← after_append, hnumber, hnew] at hlt
    exact Nat.lt_irrefl _ hlt
  · intro hread
    obtain ⟨-, first, hfirst, hload⟩ := h.load_of_readSince hread
    obtain ⟨later, hsplit, -⟩ := hfirst.since
    exact ⟨first, npc, later, hsplit, by rw [hload]⟩
  · obtain ⟨hedition, hfetches, hkept⟩ := h.load_of_not_readSince hread
    exact ⟨hfetches, congrArg Edition.graph hedition, hkept⟩
  · intro key kept hkept
    obtain ⟨first, hfirst, -⟩ := h.present key kept hkept
    exact ⟨first, hfirst⟩
  · intro request other hrequest hne
    exact get?_kept_respond_of_ne hrequest hne
  · rw [htried]
    by_cases hread : ReadSince scripts settings before npc
    · obtain ⟨-, first, hfirst, -⟩ := h.load_of_readSince hread
      have hpresent : present = .ok edition.graph := hfirst.reads_of_same hsame
      rw [hpresent]
      rfl
    · obtain ⟨hedition, -, -⟩ := h.load_of_not_readSince hread
      exact congrArg Edition.graph hedition

/-- A script that is replaced shows when what is kept is dropped, and one that cannot be read is
asked for again. -/
example :
    let l := (fresh .empty {}).after [.load "zyx", .putScript "zyx" "=== start ===\n- Hi\n",
      .load "zyx", .putScript "zyx" "", .load "zyx"]
    (l.editions, l.fetches, l.isKept "zyx") = (2, 2, true) ∧
      ((l.after [.invalidate "zyx", .load "zyx"]).fetches,
        (l.after [.invalidate "zyx", .load "zyx"]).isKept "zyx") = (3, false) := by
  decide +kernel

end Library

end Colloquy
