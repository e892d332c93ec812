import Colloquy.Proofs.Condition.Display

/-!
# Conjunctions — what the commas of a clause do

A clause cannot quote: whoever writes a comma ends an atom, whatever the text before and after it
was meant to be. So a clause with a comma holds just if the texts on both sides of it do, and it has
the flaws of both (`comma_conjoins`); which atoms a clause has is all that matters. A text without
a comma is an atom by itself, which tests what its keyword says, and with an exclamation mark in
front it tests the opposite (`bang_complements`). A text tests the flag of its own name only if no
keyword claims it (`NamesFlag`).
-/

namespace Colloquy

namespace Condition

open Text

/-! ## Commas -/

/-- A conjunction holds just if all its parts do. -/
theorem holds_conjunction (cs : List Condition) (w : World) :
    (conjunction cs).holds w = cs.all (holds w) := by
  unfold conjunction
  split
  · rfl
  · simp
  · rw [holds, allHold_eq]

theorem holds_compile (clause : String) (w : World) :
    (compile clause).value.holds w =
      (atoms clause.toList).all fun atom => (readAtom atom).value.holds w := by
  rw [value_compile, holds_conjunction, meanings, List.all_map]
  rfl

/-- The warnings about a clause. -/
def warnings (clause : String) : List String := (read clause.toList).notes.map ClauseFlaw.message

theorem toList_comma (front back : String) :
    (front ++ "," ++ back).toList = front.toList ++ ',' :: back.toList := by simp

/-- **A comma means both.** -/
theorem holds_compile_comma (front back : String) (w : World) :
    (compile (front ++ "," ++ back)).value.holds w =
      ((compile front).value.holds w && (compile back).value.holds w) := by
  simp only [holds_compile, toList_comma, atoms_comma, List.all_append]

/-- What is wrong in front of a comma is told before what is wrong behind it. -/
theorem warnings_comma (front back : String) :
    warnings (front ++ "," ++ back) = warnings front ++ warnings back := by
  simp only [warnings, toList_comma, notes_read_eq, atoms_comma, List.flatMap_append,
    List.map_append]

/-- Clauses that have the same atoms are read alike. -/
theorem read_congr {clause other : List Char} (h : atoms clause = atoms other) :
    read clause = read other := by
  rw [read, read, h]

/-- A blank text between commas, or at an end, is no atom. -/
theorem atoms_join_blank {before after : List String} {blank : String}
    (hblank : ∀ c ∈ blank.toList, isBlank c = true) :
    atoms (Text.join "," (before ++ blank :: after)).toList =
      atoms (Text.join "," (before ++ after)).toList := by
  have hnone : atoms blank.toList = [] := by
    rw [← List.append_nil blank.toList, atoms_blank_append hblank]
    rfl
  have hsep : ",".toList = ',' :: [] := rfl
  rw [atoms_join hsep nofun, atoms_join hsep nofun, List.flatMap_append, List.flatMap_cons, hnone,
    List.nil_append, List.flatMap_append]

/-- In which order and how often the atoms of a clause stand makes no difference to whether it
holds. -/
theorem holds_compile_congr {clause other : String} (w : World)
    (h : ∀ atom, atom ∈ atoms clause.toList ↔ atom ∈ atoms other.toList) :
    (compile clause).value.holds w = (compile other).value.holds w := by
  rw [holds_compile, holds_compile, Bool.eq_iff_iff, List.all_eq_true, List.all_eq_true]
  exact ⟨fun hall atom hatom => hall atom ((h atom).2 hatom),
    fun hall atom hatom => hall atom ((h atom).1 hatom)⟩

/-- **A comma is a conjunction.** Of two texts with a comma between them, the clause holds just if
both do, in every world, and the warnings are those about the first and then those about the second.
So a blank text among texts that are joined by commas changes neither the condition nor the
warnings, and clauses that have the same atoms, in whatever order and however often, hold in the
same worlds. -/
theorem comma_conjoins :
    (∀ (front back : String) (w : World), (compile (front ++ "," ++ back)).value.holds w =
      ((compile front).value.holds w && (compile back).value.holds w)) ∧
    (∀ front back : String,
      warnings (front ++ "," ++ back) = warnings front ++ warnings back) ∧
    (∀ (before after : List String) (blank : String), (∀ c ∈ blank.toList, isBlank c = true) →
      read (Text.join "," (before ++ blank :: after)).toList =
        read (Text.join "," (before ++ after)).toList) ∧
    ∀ (clause other : String) (w : World),
      (∀ atom, atom ∈ atoms clause.toList ↔ atom ∈ atoms other.toList) →
      (compile clause).value.holds w = (compile other).value.holds w :=
  ⟨holds_compile_comma, warnings_comma,
    fun _ _ _ hblank => read_congr (atoms_join_blank hblank),
    fun _ _ w hsame => holds_compile_congr w hsame⟩

/-- With a key and in the dark, for texts without a flaw, with one, blank, turned round and
repeated. -/
theorem comma_conjoins_key_in_the_dark :
    (compile ("has:key" ++ "," ++ "!lit")).value.holds (World.empty.apply (.addItem "key")) = true ∧
    warnings ("asked: " ++ "," ++ "npc_state:zyx") =
      ["condition \"asked:\" has no label",
        "condition \"npc_state:zyx\" is missing a state (expected npc_state:<npc>:<state>)"] ∧
    read (Text.join "," ["has:key", " ", "!lit"]).toList =
      read (Text.join "," ["has:key", "!lit"]).toList ∧
    (compile "!lit,has:key, !lit").value.holds (World.empty.apply (.addItem "key")) = true := by
  obtain ⟨hholds, hwarnings, hblank, hsame⟩ := comma_conjoins
  have hkey : (compile ("has:key" ++ "," ++ "!lit")).value.holds
      (World.empty.apply (.addItem "key")) = true := by
    rw [hholds]
    decide +kernel
  refine ⟨hkey, ?_, hblank ["has:key"] ["!lit"] " " isBlank_of_mem_space, ?_⟩
  · rw [hwarnings]
    decide +kernel
  · rw [← hkey]
    refine hsame _ _ _ fun atom => ?_
    have hatoms : atoms "!lit,has:key, !lit".toList =
        ["!lit".toList, "has:key".toList, "!lit".toList] := by decide +kernel
    have hother : atoms ("has:key" ++ "," ++ "!lit").toList =
        ["has:key".toList, "!lit".toList] := by decide +kernel
    rw [hatoms, hother]
    simp only [List.mem_cons, List.not_mem_nil, or_false]
    rw [or_left_comm, or_self]

/-- Without a comma, a clause that is not blank is one atom. -/
theorem value_compile_of_not_mem {clause : String} (hcomma : ',' ∉ clause.toList)
    (hfilled : trim clause.toList ≠ []) :
    (compile clause).value = (readAtom (trim clause.toList)).value := by
  have hatoms : atoms clause.toList = [trim clause.toList] := by
    simp [atoms, pieces_of_not_mem hcomma, hfilled]
  rw [value_compile, meanings, hatoms]
  rfl

/-! ## Keywords -/

/-- A keyword with anything behind it, trimmed, is what the keyword says of the rest. -/
theorem value_compile_keyword {key : String} {test : String → Condition} (h : Keyword key test)
    {operand : String} (hcomma : ',' ∉ operand.toList) :
    (compile (key ++ operand)).value = test (trimmed operand) := by
  have hkey := h.isAtom
  have htrim : trim (key ++ operand).toList = key.toList ++ trimEnd operand.toList := by
    rw [String.toList_append, trim_append hkey.filled hkey.trimmed]
  have hfilled : trim (key ++ operand).toList ≠ [] := by
    rw [htrim]
    exact List.append_ne_nil_of_left_ne_nil hkey.filled _
  have hnone : ',' ∉ (key ++ operand).toList := by simp [hkey.noComma, hcomma]
  rw [value_compile_of_not_mem hnone hfilled, htrim, h.value_readAtom, trim_trimEnd, trimmed]

/-- With a comma behind the operand, a test is about the text up to there, and what follows is to
hold as well. -/
theorem holds_compile_keyword_comma {key : String} {test : String → Condition}
    (h : Keyword key test) {front : String} (hcomma : ',' ∉ front.toList) (back : String)
    (w : World) : (compile (key ++ (front ++ "," ++ back))).value.holds w =
      ((test (trimmed front)).holds w && (compile back).value.holds w) := by
  rw [← String.append_assoc, ← String.append_assoc, holds_compile_comma,
    value_compile_keyword h hcomma]

theorem holds_compile_asked_comma {front : String} (hcomma : ',' ∉ front.toList) (back : String)
    (w : World) : (compile ("asked:" ++ (front ++ "," ++ back))).value.holds w = true ↔
      trimmed front ≠ "" ∧ w.hasAsked (trimmed front) = true ∧
        (compile back).value.holds w = true := by
  rw [holds_compile_keyword_comma .asked hcomma]
  simp [holds, and_assoc]

theorem holds_compile_hasItem_comma {front : String} (hcomma : ',' ∉ front.toList) (back : String)
    (w : World) : (compile ("has:" ++ (front ++ "," ++ back))).value.holds w = true ↔
      w.hasItem (trimmed front) = true ∧ (compile back).value.holds w = true := by
  rw [holds_compile_keyword_comma .hasItem hcomma]
  simp [holds]

/-! ## Flags -/

/-- A conjunction that is a test of a flag is that test alone. -/
theorem conjunction_eq_flag_iff {cs : List Condition} {name : String} :
    conjunction cs = .flag name ↔ cs = [.flag name] := by
  unfold conjunction
  split <;> simp_all

/-- **A text as a clause tests the flag of its own name just if it has no comma and names it.** -/
theorem value_compile_eq_flag_iff {name : String} (hfilled : name.toList ≠ [])
    (htrim : trim name.toList = name.toList) :
    (compile name).value = .flag name ↔ ',' ∉ name.toList ∧ NamesFlag name.toList := by
  constructor
  · intro h
    rw [value_compile, conjunction_eq_flag_iff, meanings, List.map_eq_singleton_iff] at h
    obtain ⟨atom, hatoms, hatom⟩ := h
    obtain ⟨hnames, hname⟩ := value_readAtom_eq_flag_iff.1 hatom
    have hmem : atom ∈ atoms name.toList := by rw [hatoms]; exact List.mem_cons_self
    rw [hname, String.toList_ofList]
    exact ⟨(isAtom_of_mem_atoms hmem).1.noComma, hnames⟩
  · rintro ⟨hcomma, hnames⟩
    rw [value_compile_of_not_mem hcomma (htrim.symm ▸ hfilled), htrim]
    exact value_readAtom_eq_flag_iff.2 ⟨hnames, String.ofList_toList.symm⟩

/-- A text without a comma and a colon names a flag, unless it starts with an exclamation mark. -/
theorem value_compile_of_noColon {name : String} (hcomma : ',' ∉ name.toList)
    (hcolon : ':' ∉ name.toList) (hfilled : trim name.toList ≠ [])
    (hbang : (trim name.toList).head? ≠ some '!') :
    (compile name).value = .flag (trimmed name) := by
  have hnames : NamesFlag (trim name.toList) := by
    refine ⟨noKeyword_of_noColon fun h => hcolon (mem_of_mem_trim h), fun rest hrest => ?_⟩
    rw [hrest] at hbang
    exact absurd rfl hbang
  rw [value_compile_of_not_mem hcomma hfilled, hnames.readAtom_eq, Noted.value_pure, trimmed]

/-! ## Opposites -/

/-- With an exclamation mark in front, a text without a comma and a colon tests that a flag is not
set. -/
theorem value_compile_bang {name : String} (hcomma : ',' ∉ name.toList)
    (hcolon : ':' ∉ name.toList) : (compile ("!" ++ name)).value = .notFlag (trimmed name) := by
  have htrim : trim ("!" ++ name).toList = '!' :: trimEnd name.toList := by
    rw [String.toList_append, trim_append (by decide) (by decide)]
    rfl
  have hnone : ',' ∉ ("!" ++ name).toList := by simp [hcomma]
  have hrest : ':' ∉ trimEnd name.toList := fun h => hcolon (mem_of_mem_trimEnd h)
  rw [value_compile_of_not_mem hnone (htrim ▸ List.cons_ne_nil _ _), htrim, readAtom_bang hrest,
    Noted.value_pure, trim_trimEnd, trimmed]

/-- An empty label was never asked about, and that it was not always holds. -/
theorem holds_notAsked (label : String) (w : World) :
    (Condition.notAsked label).holds w = !(Condition.asked label).holds w := by
  rw [holds, holds, Bool.not_and, decide_not, Bool.not_not]

/-- **An exclamation mark turns a test into its opposite.** In every world, a test of a label and
one of an item with an exclamation mark in front hold just if they do not without it, whatever text
without a comma stands behind the keyword, a blank one included. So does any text that names a flag
and has no colon. -/
theorem bang_complements {operand : String} (hcomma : ',' ∉ operand.toList) (w : World) :
    (compile ("!asked:" ++ operand)).value.holds w =
      (!(compile ("asked:" ++ operand)).value.holds w) ∧
    (compile ("!has:" ++ operand)).value.holds w =
      (!(compile ("has:" ++ operand)).value.holds w) ∧
    (':' ∉ operand.toList → trim operand.toList ≠ [] → (trim operand.toList).head? ≠ some '!' →
      (compile ("!" ++ operand)).value.holds w = !(compile operand).value.holds w) := by
  -- with the mark and without it, the same operand is trimmed in the same way
  refine ⟨?_, ?_, fun hcolon hfilled hbang => ?_⟩
  · rw [value_compile_keyword .notAsked hcomma, value_compile_keyword .asked hcomma,
      holds_notAsked]
  · rw [value_compile_keyword .lacksItem hcomma, value_compile_keyword .hasItem hcomma, holds,
      holds]
  · rw [value_compile_bang hcomma hcolon, value_compile_of_noColon hcomma hcolon hfilled hbang,
      holds, holds]

/-- A blank label that was asked about, and a flag that is set. -/
theorem bang_complements_blank_label_lamp :
    (compile ("!asked:" ++ " ")).value.holds (World.empty.apply (.markAsked "")) = true ∧
    (compile ("! " ++ "lamp ")).value.holds
      (World.empty.apply (.setFlag "lamp" (.bool true))) = false := by
  have hblank : ',' ∉ " ".toList := by decide
  have hlamp : ',' ∉ " lamp ".toList := by decide
  obtain ⟨hasked, -, -⟩ := bang_complements hblank (World.empty.apply (.markAsked ""))
  obtain ⟨-, -, hflag⟩ :=
    bang_complements hlamp (World.empty.apply (.setFlag "lamp" (.bool true)))
  refine ⟨hasked.trans (by decide +kernel), ?_⟩
  exact (hflag (by decide) (by decide) (by decide)).trans (by decide +kernel)

end Condition

end Colloquy
