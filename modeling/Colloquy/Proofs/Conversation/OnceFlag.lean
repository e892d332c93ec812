import Colloquy.Dialogue.Review
import Colloquy.Proofs.Conversation.Spent
import Colloquy.Proofs.Script.Naming
import Colloquy.Proofs.Text.Decimal

/-!
# Flags of spent choices — which choices share one

The flag that a choice is spent with is named after the character, the node and the label of the
choice, or its position if it has no label, with dots between them. In a dialogue of a script two
choices share a flag just if these names run into each other (`Pick.Clashes`): a label is written
like the position of another choice of its node, or the name of a character goes on like the node
and the beginning of a label. Choices that do not clash are spent independently of each other, and
picking one leaves the other on offer.
-/

namespace Colloquy

open Text

namespace Pick

variable {p q : Pick} {g : Graph}

/-- What tells the choice from the others of its node: its label, or its position. -/
def mark (p : Pick) : String := p.choice.id.getD (toString p.index)

/-- The flag that the choice is spent with, if it can be picked only once. -/
def onceFlag (p : Pick) : String := p.choice.onceFlag p.npc p.node p.index

/-- The name of the flag within its group. -/
def path (p : Pick) : List Char :=
  p.npc.toList ++ '.' :: (p.node.toList ++ '.' :: p.mark.toList)

/-- The choice is one of a dialogue, and can be picked only once. -/
structure IsOnceOf (p : Pick) (g : Graph) : Prop where
  known : ∃ node, g.get? p.node = some node ∧ node.choices[p.index]? = some p.choice
  once : p.choice.isOnce = true

/-! ## Clashes -/

/-- At one node of one character, a label is the position of a choice without a label. -/
structure Impersonates (p q : Pick) : Prop where
  npc : p.npc = q.npc
  node : p.node = q.node
  label : p.choice.id = some (toString q.index)
  unlabelled : q.choice.id = none

/-- The name of one character goes on with the node and possibly more of the other choice, whose
label goes on from there and ends with the node and the label of the first one. -/
def Overlaps (p q : Pick) : Prop :=
  ∃ more : List Char, q.npc.toList = p.npc.toList ++ '.' :: (p.node.toList ++ more) ∧
    '.' :: p.mark.toList = more ++ '.' :: (q.node.toList ++ '.' :: q.mark.toList)

/-- The names of two choices run into each other. -/
def Clashes (p q : Pick) : Prop :=
  p.Impersonates q ∨ q.Impersonates p ∨ p.Overlaps q ∨ q.Overlaps p

/-! ## What the flag is called -/

theorem toList_onceFlag (p : Pick) : p.onceFlag.toList = "once".toList ++ '.' :: p.path := by
  have hflag : p.onceFlag = "once." ++ p.npc ++ "." ++ p.node ++ "." ++ p.mark := by
    unfold onceFlag Choice.onceFlag mark
    cases p.choice.id <;> rfl
  rw [hflag]
  simp [path]

/-- The mark of a choice of a script is one that a script can give. -/
theorem isLabel_mark (h : p.choice.Labelled) : IsLabel p.mark := by
  unfold mark
  cases hid : p.choice.id with
  | none =>
    have hclean := (isName_toString p.index).clean
    exact ⟨hclean.filled, hclean.trimmed⟩
  | some label => exact h label hid

/-- **The flag is in the group of spent choices**, and called by the path of the choice there. -/
theorem read_onceFlag (h : IsLabel p.mark) :
    FlagName.read p.onceFlag = ⟨"once", String.ofList p.path⟩ := by
  have hends : EndsBare p.mark.toList := h.trimmed ▸ endsBare_trim p.mark.toList
  have hbare : EndsBare ("once".toList ++ '.' :: p.path) := by
    have hsplit : "once".toList ++ '.' :: p.path =
        ("once".toList ++ '.' :: (p.npc.toList ++ '.' :: (p.node.toList ++ ['.']))) ++
          p.mark.toList := by simp [path]
    rw [hsplit, endsBare_append _ h.filled]
    exact hends
  have htrim : trim p.onceFlag.toList = "once".toList ++ '.' :: p.path := by
    rw [toList_onceFlag]
    have hstart : StartsBare "once".toList := (by decide : Clean "once".toList).startsBare
    exact trim_eq_self ((startsBare_append (by decide) _).2 hstart) hbare
  obtain ⟨d, name, hpath⟩ : ∃ d name, p.path = d :: name := by
    refine List.exists_cons_of_ne_nil fun hnil => ?_
    simp [path] at hnil
  rw [FlagName.read, htrim, cut_append (by decide), hpath]
  rfl

theorem read_onceFlag_eq_iff (hp : IsLabel p.mark) (hq : IsLabel q.mark) :
    FlagName.read p.onceFlag = FlagName.read q.onceFlag ↔ p.path = q.path := by
  rw [read_onceFlag hp, read_onceFlag hq]
  exact ⟨fun h => String.ofList_injective (congrArg FlagName.name h), fun h => by rw [h]⟩

/-! ## When two flags are the same -/

/-- Names that run into each other make one path. -/
theorem path_eq_of_overlaps (h : p.Overlaps q) : p.path = q.path := by
  obtain ⟨more, hnpc, hmark⟩ := h
  rw [path, path, hmark, hnpc]
  simp

theorem path_eq_of_impersonates (h : p.Impersonates q) : p.path = q.path := by
  have hmark : p.mark = q.mark := by
    rw [mark, mark, h.label, h.unlabelled]
    rfl
  rw [path, path, h.npc, h.node, hmark]

/-- If one character's name goes on where the other one's ends, then the names overlap. -/
theorem overlaps_of_path_eq (hnode : IsName p.node.toList) (hne : p.npc ≠ q.npc) {rest : List Char}
    (hnpc : q.npc.toList = p.npc.toList ++ rest)
    (hrest : '.' :: (p.node.toList ++ '.' :: p.mark.toList) =
      rest ++ '.' :: (q.node.toList ++ '.' :: q.mark.toList)) : p.Overlaps q := by
  cases rest with
  | nil =>
    rw [List.append_nil] at hnpc
    exact absurd (String.toList_inj.1 hnpc.symm) hne
  | cons d rest =>
    obtain ⟨rfl, htail⟩ := List.cons.inj hrest
    rcases List.append_eq_append_iff.1 htail with ⟨more, rfl, hmark⟩ | ⟨more, hwhole, hmark⟩
    · exact ⟨more, hnpc, hmark⟩
    · cases more with
      | nil =>
        rw [List.append_nil] at hwhole
        exact ⟨[], by rw [hnpc, hwhole, List.append_nil], hmark.symm⟩
      | cons d more =>
        -- the node would have a dot in its name
        obtain ⟨rfl, -⟩ := List.cons.inj hmark
        have hdot : '.' ∈ p.node.toList := by
          rw [hwhole]
          exact List.mem_append_right rest List.mem_cons_self
        exact absurd hdot (hnode.not_mem (by decide))

/-- Under one name of a character, one path is one node and one mark. -/
theorem node_mark_of_path_eq (hp : IsName p.node.toList) (hq : IsName q.node.toList)
    (hnpc : p.npc = q.npc) (hpath : p.path = q.path) : p.node = q.node ∧ p.mark = q.mark := by
  rw [path, path, hnpc] at hpath
  have htail := (List.cons.inj (List.append_cancel_left hpath)).2
  have hcut := congrArg (cut '.') htail
  rw [cut_append (hp.not_mem (by decide)), cut_append (hq.not_mem (by decide))] at hcut
  obtain ⟨hnode, hmark⟩ := Prod.mk.inj (Option.some.inj hcut)
  exact ⟨String.toList_inj.1 hnode, String.toList_inj.1 hmark⟩

theorem toString_inj {m n : Nat} (h : toString m = toString n) : m = n := by
  have hdigits := congrArg String.toList h
  rw [Nat.toString_eq_repr, Nat.toString_eq_repr, Nat.toList_repr, Nat.toList_repr] at hdigits
  have hread := congrArg (Nat.ofDigitChars 10 · 0) hdigits
  simpa [Nat.ofDigitChars_toDigits] using hread

/-- With labels that are all different, a label tells which choice of a node has it. -/
theorem index_eq_of_label (hlabels : g.labels.Nodup) {key : String} {node : Node}
    (hknown : g.get? key = some node) {i j : Nat} {c c' : Choice} {label : String}
    (hi : node.choices[i]? = some c) (hj : node.choices[j]? = some c') (hc : c.id = some label)
    (hc' : c'.id = some label) : i = j := by
  have hnode : (node.choices.filterMap Choice.id).Nodup :=
    (List.nodup_flatMap.1 hlabels).1 _ (TextMap.mem_entries.2 hknown)
  rw [List.Nodup, List.pairwise_filterMap, List.pairwise_iff_getElem] at hnode
  obtain ⟨hilt, rfl⟩ := List.getElem?_eq_some_iff.1 hi
  obtain ⟨hjlt, rfl⟩ := List.getElem?_eq_some_iff.1 hj
  rcases Nat.lt_trichotomy i j with hlt | heq | hlt
  · exact absurd rfl (hnode i j hilt hjlt hlt label hc label hc')
  · exact heq
  · exact absurd rfl (hnode j i hjlt hilt hlt label hc' label hc)

/-- Different choices of a dialogue with labels that are all different, at one node of one
character and with one mark: the label of one is the position of the other. -/
theorem impersonates_of_mark_eq (hlabels : g.labels.Nodup) (hp : p.IsOnceOf g) (hq : q.IsOnceOf g)
    (hne : p ≠ q) (hnpc : p.npc = q.npc) (hnode : p.node = q.node) (hmark : p.mark = q.mark) :
    p.Impersonates q ∨ q.Impersonates p := by
  obtain ⟨node, hknown, hpchoice⟩ := hp.known
  obtain ⟨node', hknown', hqchoice⟩ := hq.known
  rw [← hnode, hknown, Option.some.injEq] at hknown'
  subst hknown'
  have hindex : p.index ≠ q.index := by
    intro hindex
    rw [← hindex, hpchoice, Option.some.injEq] at hqchoice
    refine hne ?_
    cases p
    cases q
    simp_all
  unfold mark at hmark
  cases hpid : p.choice.id with
  | none =>
    cases hqid : q.choice.id with
    | none =>
      rw [hpid, hqid] at hmark
      exact absurd (toString_inj hmark) hindex
    | some label =>
      rw [hpid, hqid] at hmark
      exact .inr ⟨hnpc.symm, hnode.symm, hqid.trans (congrArg some hmark.symm), hpid⟩
  | some label =>
    cases hqid : q.choice.id with
    | none =>
      rw [hpid, hqid] at hmark
      exact .inl ⟨hnpc, hnode, hpid.trans (congrArg some hmark), hqid⟩
    | some label' =>
      rw [hpid, hqid] at hmark
      obtain rfl : label = label' := hmark
      exact absurd (index_eq_of_label hlabels hknown hpchoice hqchoice hpid hqid) hindex

/-- **Two choices of a script share a path just if their names clash.** -/
theorem path_eq_iff (hnamed : g.Named) (hlabels : g.labels.Nodup) (hp : p.IsOnceOf g)
    (hq : q.IsOnceOf g) (hne : p ≠ q) : p.path = q.path ↔ p.Clashes q := by
  have hpnode : IsName p.node.toList := by
    obtain ⟨node, hknown, -⟩ := hp.known
    exact hnamed.node _ _ hknown
  have hqnode : IsName q.node.toList := by
    obtain ⟨node, hknown, -⟩ := hq.known
    exact hnamed.node _ _ hknown
  constructor
  · intro hpath
    by_cases hnpc : p.npc = q.npc
    · obtain ⟨hnode, hmark⟩ := node_mark_of_path_eq hpnode hqnode hnpc hpath
      rcases impersonates_of_mark_eq hlabels hp hq hne hnpc hnode hmark with h | h
      · exact .inl h
      · exact .inr (.inl h)
    · -- one of the two names of characters is in front of the other
      rcases List.append_eq_append_iff.1 hpath with ⟨rest, hlonger, hrest⟩ | ⟨rest, hlonger, hrest⟩
      · exact .inr (.inr (.inl (overlaps_of_path_eq hpnode hnpc hlonger hrest)))
      · exact .inr (.inr (.inr (overlaps_of_path_eq hqnode (Ne.symm hnpc) hlonger hrest)))
  · rintro (h | h | h | h)
    · exact path_eq_of_impersonates h
    · exact (path_eq_of_impersonates h).symm
    · exact path_eq_of_overlaps h
    · exact (path_eq_of_overlaps h).symm

example :
    let p : Pick := ⟨"inn", "bar", 0, { text := "Order", id := some "back.tea" }⟩
    let q : Pick := ⟨"inn.bar", "back", 3, { text := "Pay", id := some "tea" }⟩
    p.Overlaps q ∧ p.path = "inn.bar.back.tea".toList ∧ q.path = p.path :=
  ⟨⟨[], by decide⟩, by decide⟩

/-! ## What a pick leaves alone -/

/-- A flag that a pick does not set is set afterwards just if it was before. -/
theorem isFlagSet_enact_of_ne {flag : String} {w : World}
    (h : ∀ set ∈ p.flags, FlagName.read set ≠ FlagName.read flag) :
    (p.enact w).isFlagSet flag = w.isFlagSet flag := by
  have hother : FlagName.read flag ∉ p.flags.map FlagName.read := by
    intro hmem
    obtain ⟨set, hset, hread⟩ := List.mem_map.1 hmem
    exact h set hset hread
  rw [World.isFlagSet, World.flag, flagAt_enact, if_neg hother]
  rfl

end Pick

namespace Conversation

variable {c : Conversation} {p q : Pick} {g : Graph} {place : Nat} {later : List Request}

/-! ## A pick and the choices beside it -/

/-- In a run that begins with a pick, nothing sets the flag of another choice, unless picking the
first one does so by spending it: it was not set before, and neither the effects of the pick nor
anything that is picked later nor anybody outside sets it. -/
structure Untouched (c : Conversation) (place : Nat) (p q : Pick) (later : List Request) :
    Prop where
  unspent : c.world.isFlagSet q.onceFlag = false
  effects : ∀ flag ∈ p.choice.effects.elim [] Effects.setFlags,
    FlagName.read flag ≠ FlagName.read q.onceFlag
  picks : ∀ r ∈ (c.respond (.select place)).value.2.picks later, ∀ flag ∈ r.flags,
    FlagName.read flag ≠ FlagName.read q.onceFlag
  outside : ∀ request ∈ later, request.Keeps q.onceFlag false

theorem Untouched.front {front back : List Request} (h : Untouched c place p q (front ++ back)) :
    Untouched c place p q front where
  unspent := h.unspent
  effects := h.effects
  picks r hr := h.picks r (by rw [picks_append]; exact List.mem_append_left _ hr)
  outside request hrequest := h.outside request (List.mem_append_left back hrequest)

/-- With a flag of its own, a choice that nothing else touches is not spent by the pick. -/
theorem Untouched.unspent_after (h : Untouched c place p q later) (hc : Coherent c)
    (hpick : c.pick? (.select place) = some p)
    (hne : FlagName.read p.onceFlag ≠ FlagName.read q.onceFlag) :
    (c.after (.select place :: later)).world.isFlagSet q.onceFlag = false := by
  have hflags : ∀ flag ∈ p.flags, FlagName.read flag ≠ FlagName.read q.onceFlag := by
    intro flag hflag
    rcases List.mem_append.1 hflag with hflag | hflag
    · split at hflag
      · rw [List.mem_singleton.1 hflag]
        exact hne
      · cases hflag
    · exact h.effects flag hflag
  have hworld := world_of_response (response hc (.select place)) rfl
  rw [hpick, Option.elim_some] at hworld
  rw [after_cons]
  refine isFlagSet_after (coherent_respond hc _) h.outside (fun r hr w hw => ?_) ?_
  · rw [Pick.isFlagSet_enact_of_ne (h.picks r hr), hw]
  · rw [hworld, Pick.isFlagSet_enact_of_ne hflags, h.unspent]

/-- Picking one choice leaves another one on offer. In whatever run the first is picked, if nothing
else touches the flag of the second, then every menu at the place of the second that goes up from
then on has it, just if its condition holds in the world that the menu was settled in. -/
def LeavesOnOffer (p q : Pick) (g : Graph) : Prop :=
  ∀ (world : World) (pacing : Pacing) (first : List Request) (c : Conversation) (place : Nat)
    (later : List Request), c = (fresh world pacing).after first →
    c.pick? (.select place) = some p → Untouched c place p q later →
    ∀ (before after : List Request) (request : Request) (menu : List MenuItem),
      .select place :: later = before ++ request :: after →
      .optionsShown menu ∈ (c.after before).news request →
      ∃ s, (c.after (before ++ [request])).session = some s ∧
        (s.npc = q.npc → s.graph = g → s.node = q.node →
          ∃ front back, later = front ++ back ∧
            s.Settles (c.after (.select place :: front)).world menu ∧
            ((∃ item ∈ menu, item.index = q.index) ↔
              q.choice.isVisible (c.after (.select place :: front)).world = true))

theorem leavesOnOffer_of_ne (hq : q.IsOnceOf g)
    (hne : FlagName.read p.onceFlag ≠ FlagName.read q.onceFlag) : LeavesOnOffer p q g := by
  rintro world pacing first c place later hreached hpick huntouched before after request menu hsplit
    hmenu
  have hc : Coherent c := hreached ▸ (coherent_fresh world pacing).after first
  have hr : Recorded c _ _ :=
    hreached ▸ recorded_after (coherent_fresh world pacing) (recorded_fresh world pacing) first
  obtain ⟨between, hbetween, rfl, hphase, rfl⟩ := shown_in_run hc hsplit hmenu
  obtain ⟨s, front, back, hs, rfl, hsettles⟩ := settled_since_pick hc hr hpick hphase
  rw [List.append_assoc] at huntouched
  have hunspent := huntouched.front.unspent_after hc hpick hne
  rw [hbetween]
  refine ⟨s, hs, fun hnpc hgraph hnode => ⟨front, back ++ after, List.append_assoc _ _ _, hsettles,
    ?_⟩⟩
  obtain ⟨node, hknown, hchoice⟩ := hq.known
  rw [← hgraph, ← hnode] at hknown
  rw [hsettles.mem_index_iff hknown hchoice, Session.offers_iff]
  refine and_iff_left ?_
  rw [Session.isSpent, hnpc, hnode]
  show (_ && (World.isFlagSet _ q.onceFlag)) = false
  rw [hunspent, Bool.and_false]

/-- **Two choices of a script that can be picked only once share a flag just if their names clash**,
and if they do not, then picking one leaves the other on offer. -/
theorem once_flags_apart {hero script : String} (hread : (Script.read hero script).value = .ok g)
    (hlabels : g.labels.Nodup) (hp : p.IsOnceOf g) (hq : q.IsOnceOf g) (hne : p ≠ q) :
    (FlagName.read p.onceFlag = FlagName.read q.onceFlag ↔ p.Clashes q) ∧
      (¬ p.Clashes q → LeavesOnOffer p q g) := by
  have hnamed := Script.named_of_read hread
  have hmark {r : Pick} (hr : r.IsOnceOf g) : IsLabel r.mark := by
    obtain ⟨node, hknown, hchoice⟩ := hr.known
    exact Pick.isLabel_mark (hnamed.choice _ _ hknown _ (List.mem_of_getElem? hchoice))
  have hiff : FlagName.read p.onceFlag = FlagName.read q.onceFlag ↔ p.Clashes q := by
    rw [Pick.read_onceFlag_eq_iff (hmark hp) (hmark hq), Pick.path_eq_iff hnamed hlabels hp hq hne]
  exact ⟨hiff, fun hclash => leavesOnOffer_of_ne hq fun hsame => hclash (hiff.1 hsame)⟩

/-! ## Two choices of a market -/

/-- A choice that can be picked only once, with a label. -/
def haggle (label : String) : Choice :=
  { text := "Haggle", effects := some { once := true }, id := some label }

/-- A choice that can be picked only once, without a label. -/
def flatter : Choice := { text := "Flatter", effects := some { once := true } }

/-- A dialogue with both of them. -/
def market (label : String) : Graph := TextMap.empty.insert "start"
  { choices := [haggle label, flatter, { text := "Leave", exit := true }] }

/-- The script of this dialogue. -/
def marketScript (label : String) : String :=
  "=== start ===\n- Haggle\n# once\n# id: " ++ label ++ "\n- Flatter\n# once\n- Leave\n> END\n"

theorem once_flags_apart_price :
    let p : Pick := ⟨"zyx", "start", 0, haggle "price"⟩
    let q : Pick := ⟨"zyx", "start", 1, flatter⟩
    let c := (fresh .empty {}).after [.enterAt "zyx" (market "price") "start"]
    let menu : List MenuItem := [⟨1, "Flatter", false⟩, ⟨2, "Leave", false⟩]
    (Script.read "nate" (marketScript "price")).value = .ok (market "price") ∧
      ¬ p.Clashes q ∧ FlagName.read p.onceFlag ≠ FlagName.read q.onceFlag ∧
      c.pick? (.select 0) = some p ∧ .optionsShown menu ∈ c.news (.select 0) ∧
      ∃ item ∈ menu, item.index = q.index := by
  intro p q c menu
  have hread : (Script.read "nate" (marketScript "price")).value = .ok (market "price") := by
    decide +kernel
  have hp : p.IsOnceOf (market "price") := ⟨⟨_, rfl, rfl⟩, rfl⟩
  have hq : q.IsOnceOf (market "price") := ⟨⟨_, rfl, rfl⟩, rfl⟩
  obtain ⟨hiff, hleaves⟩ := once_flags_apart hread (by decide) hp hq (by decide)
  have hne : FlagName.read p.onceFlag ≠ FlagName.read q.onceFlag := by decide
  have hclash : ¬ p.Clashes q := fun h => hne (hiff.2 h)
  have hpick : c.pick? (.select 0) = some p := by decide
  have hmenu : .optionsShown menu ∈ c.news (.select 0) := by decide
  have huntouched : Untouched c 0 p q [] := ⟨by decide, by decide, by simp [picks], by simp⟩
  obtain ⟨s, hs, hoffers⟩ := hleaves hclash .empty {} _ c 0 [] rfl hpick huntouched [] [] _ menu
    rfl hmenu
  have hsession : (c.after ([] ++ [.select 0])).session = some
      { npc := "zyx", graph := market "price", node := "start", used := ⟨[("start", 0)]⟩ } := by
    decide
  obtain rfl := Option.some.inj (hsession.symm.trans hs)
  obtain ⟨front, back, hsplit, -, hhas⟩ := hoffers rfl rfl rfl
  obtain ⟨rfl, rfl⟩ := List.append_eq_nil_iff.1 hsplit.symm
  exact ⟨hread, hclash, hne, hpick, hmenu, hhas.2 (by decide)⟩

/-- With a label that is the position of the other choice, both are spent with one of them. -/
theorem once_flags_meet :
    let p : Pick := ⟨"zyx", "start", 0, haggle "1"⟩
    let q : Pick := ⟨"zyx", "start", 1, flatter⟩
    let c := (fresh .empty {}).after [.enterAt "zyx" (market "1") "start"]
    (Script.read "nate" (marketScript "1")).value = .ok (market "1") ∧
      (market "1").labels.Nodup ∧ p.IsOnceOf (market "1") ∧ q.IsOnceOf (market "1") ∧ p ≠ q ∧
      FlagName.read p.onceFlag = FlagName.read q.onceFlag ∧ p.Clashes q ∧
      c.menu = [⟨0, "Haggle", false⟩, ⟨1, "Flatter", false⟩, ⟨2, "Leave", false⟩] ∧
      c.pick? (.select 0) = some p ∧
      c.news (.select 0) = [.optionsHidden, .optionsShown [⟨2, "Leave", false⟩]] := by
  intro p q c
  have hread : (Script.read "nate" (marketScript "1")).value = .ok (market "1") := by
    decide +kernel
  have hp : p.IsOnceOf (market "1") := ⟨⟨_, rfl, rfl⟩, rfl⟩
  have hq : q.IsOnceOf (market "1") := ⟨⟨_, rfl, rfl⟩, rfl⟩
  have hclash : p.Impersonates q := ⟨rfl, rfl, by decide, rfl⟩
  exact ⟨hread, by decide, hp, hq, by decide, by decide, .inl hclash, by decide, by decide,
    by decide⟩

end Conversation

end Colloquy
