import Colloquy.Json.Reader
import Colloquy.Proofs.Json.Numeral
import Colloquy.Proofs.Json.Quote

/-!
# Documents are read back

Between a document and its text there are its tokens (`tokensOf`). The text of a document is cut
into them wherever it stands in a longer text (`tokens?_lay`), and the reader takes them for the
document wherever a value is due (`expect_tokensOf`). Both are inductions over the document, so that
every document is read back from its text, however deeply it nests (`parse?_pretty`).
-/

namespace Colloquy

namespace Json

mutual

/-- The tokens of a document. -/
def tokensOf : Json → List Token
  | .null => [.null]
  | .bool b => [.bool b]
  | .number n => [.number n]
  | .text s => [.text s]
  | .list [] => [.openBracket, .closeBracket]
  | .list (item :: items) =>
    .openBracket :: tokensOf item ++ tokensOfItems items ++ [.closeBracket]
  | .object [] => [.openBrace, .closeBrace]
  | .object ((key, value) :: members) =>
    .openBrace :: .text key :: .colon :: tokensOf value ++ tokensOfMembers members ++ [.closeBrace]

/-- The tokens of the items after the first. -/
def tokensOfItems : List Json → List Token
  | [] => []
  | item :: items => .comma :: tokensOf item ++ tokensOfItems items

/-- The tokens of the members after the first. -/
def tokensOfMembers : List (Option String × Json) → List Token
  | [] => []
  | (key, value) :: members =>
    .comma :: .text key :: .colon :: tokensOf value ++ tokensOfMembers members

end

/-! ## From the text to the tokens -/

variable {rest : List Char}

theorem tokens?_gap {c : Char} (h : isGap c = true) : tokens? (c :: rest) = tokens? rest := by
  rw [tokens?, if_pos h]

theorem tokens?_token {c : Char} {rest' : List Char} {t : Token} (hgap : isGap c = false)
    (h : Token.read? c rest = some (t, rest')) :
    tokens? (c :: rest) = (tokens? rest').map (t :: ·) := by
  rw [tokens?, if_neg (by simp [hgap])]
  split
  · rename_i hnone
    rw [h] at hnone
    cases hnone
  · rename_i token rest'' hsome
    obtain ⟨rfl, rfl⟩ := Prod.mk.inj (Option.some.inj (h.symm.trans hsome))
    rfl

/-- A mark is a token by itself. -/
theorem tokens?_mark {c : Char} {t : Token} (h : (c, t) ∈ [('[', .openBracket),
    (']', .closeBracket), ('\x7b', .openBrace), ('\x7d', .closeBrace), (',', .comma),
    (':', .colon)]) : tokens? (c :: rest) = (tokens? rest).map (t :: ·) := by
  simp only [List.mem_cons, Prod.mk.injEq, List.not_mem_nil, or_false] at h
  rcases h with ⟨rfl, rfl⟩ | ⟨rfl, rfl⟩ | ⟨rfl, rfl⟩ | ⟨rfl, rfl⟩ | ⟨rfl, rfl⟩ | ⟨rfl, rfl⟩ <;>
    exact tokens?_token rfl rfl

theorem tokens?_newLine (indent : Nat) : tokens? (newLine indent ++ rest) = tokens? rest := by
  have hblanks : ∀ n, tokens? (List.replicate n ' ' ++ rest) = tokens? rest := by
    intro n
    induction n with
    | zero => rfl
    | succ n ih => exact (tokens?_gap rfl).trans ih
  exact (tokens?_gap rfl).trans (hblanks _)

theorem tokens?_quote (s : Option String) :
    tokens? (quote s ++ rest) = (tokens? rest).map (.text s :: ·) := by
  obtain ⟨cs, hquote, hscan⟩ := scan_quote s
  obtain ⟨units, hunits, hs⟩ := hscan rest
  rw [hquote, List.cons_append]
  refine tokens?_token rfl ?_
  rw [Token.read?, hunits, ← hs]
  rfl

/-- A digit begins a number literal. -/
theorem read?_of_isDigit {c : Char} (h : c.isDigit = true) (rest : List Char) :
    isGap c = false ∧
      Token.read? c rest =
        (scanNumber false (c :: rest)).map fun (n, rest) => (.number n, rest) := by
  constructor
  · refine Bool.eq_false_iff.2 fun hgap => ?_
    simp only [isGap, Bool.or_eq_true, decide_eq_true_eq] at hgap
    rcases hgap with ((rfl | rfl) | rfl) | rfl <;> cases h
  · unfold Token.read?
    split <;> first | rfl | cases h

/-- A number literal is a sign, if there is one, and digits in front of the rest of it. -/
theorem tokens?_signed {negative : Bool} {cs : List Char} {n : Numeral}
    (hdigit : ∃ c ds, cs = c :: ds ∧ c.isDigit = true)
    (hscan : scanNumber negative (cs ++ rest) = some (n, rest)) :
    tokens? ((if negative then ['-'] else []) ++ cs ++ rest) =
      (tokens? rest).map (.number n :: ·) := by
  cases negative with
  | true =>
    have hread : Token.read? '-' (cs ++ rest) = some (.number n, rest) := by
      rw [Token.read?, hscan]
      rfl
    exact tokens?_token rfl hread
  | false =>
    obtain ⟨c, ds, rfl, hc⟩ := hdigit
    obtain ⟨hgap, hread⟩ := read?_of_isDigit hc (ds ++ rest)
    rw [← List.cons_append, hscan] at hread
    exact tokens?_token hgap hread

theorem tokens?_writeNumeral (n : Numeral) (hrest : Ends rest) :
    tokens? (writeNumeral n ++ rest) = (tokens? rest).map (.number n :: ·) := by
  cases n with
  | whole negative n =>
    have hwhole := isWhole_toDigits n
    rw [writeNumeral, Text.toList_toString_nat]
    exact tokens?_signed hwhole.head (scanNumber_whole negative n hrest)
  | scaled negative digits places e =>
    obtain ⟨before, behind, hparts, hwhole, -⟩ := parts_eq digits places
    obtain ⟨c, cs, hbefore, hc⟩ := hwhole.head
    have hliteral : writeNumeral (.scaled negative digits places e) =
        (if negative then ['-'] else []) ++ (before.map Nat.digitChar ++
          (if places = 0 then [] else '.' :: behind.map Nat.digitChar) ++ ['e'] ++
          (toString e).toList) := by
      rw [writeNumeral, hparts]
      simp only [List.append_assoc]
    rw [hliteral]
    refine tokens?_signed ⟨c, _, by rw [hbefore]; rfl, hc⟩ ?_
    exact scanNumber_scaled negative hparts e hrest

/-- What comes behind a value does not go on a number literal. -/
theorem ends_cons {c : Char} (h : c ∈ [',', '\n', ']', '\x7d']) : Ends (c :: rest) := by
  rintro d hd
  obtain rfl := Option.some.inj hd
  simp only [List.mem_cons, List.not_mem_nil, or_false] at h
  rcases h with rfl | rfl | rfl | rfl <;> decide

theorem ends_newLine (indent : Nat) : Ends (newLine indent ++ rest) := ends_cons (by decide)

theorem ends_layItems (indent : Nat) (items : List Json) (hrest : Ends rest) :
    Ends (layItems indent items ++ rest) := by
  cases items with
  | nil => exact hrest
  | cons => exact ends_cons (by decide)

theorem ends_layMembers (indent : Nat) (members : List (Option String × Json))
    (hrest : Ends rest) : Ends (layMembers indent members ++ rest) := by
  cases members with
  | nil => exact hrest
  | cons => exact ends_cons (by decide)

/-- A key and what sets it off from its value. -/
theorem tokens?_key (key : Option String) :
    tokens? (quote key ++ (':' :: ' ' :: rest)) =
      (tokens? rest).map (.text key :: .colon :: ·) := by
  rw [tokens?_quote, tokens?_mark (t := .colon) (by decide), tokens?_gap rfl, Option.map_map]
  rfl

mutual

/-- **The text of a document is cut into its tokens**, wherever it stands. -/
theorem tokens?_lay (indent : Nat) (j : Json) {rest : List Char} (hrest : Ends rest) :
    tokens? (lay indent j ++ rest) = (tokens? rest).map (tokensOf j ++ ·) := by
  match j with
  | .null | .bool true | .bool false => exact tokens?_token rfl rfl
  | .number n => exact tokens?_writeNumeral n hrest
  | .text s => exact tokens?_quote s
  | .list [] =>
    show tokens? ('[' :: ']' :: rest) = _
    rw [tokens?_mark (t := .openBracket) (by decide),
      tokens?_mark (t := .closeBracket) (by decide), Option.map_map]
    rfl
  | .list (item :: items) =>
    have hlay : lay indent (.list (item :: items)) ++ rest =
        '[' :: (newLine (indent + 1) ++ (lay (indent + 1) item ++ (layItems (indent + 1) items ++
          (newLine indent ++ ']' :: rest)))) := by simp [lay]
    have hclose : Ends (newLine indent ++ ']' :: rest) := ends_newLine indent
    rw [hlay, tokens?_mark (t := .openBracket) (by decide), tokens?_newLine,
      tokens?_lay _ item (ends_layItems _ items hclose), tokens?_layItems _ items hclose,
      tokens?_newLine, tokens?_mark (t := .closeBracket) (by decide)]
    cases tokens? rest <;> simp [tokensOf]
  | .object [] =>
    show tokens? ('\x7b' :: '\x7d' :: rest) = _
    rw [tokens?_mark (t := .openBrace) (by decide), tokens?_mark (t := .closeBrace) (by decide),
      Option.map_map]
    rfl
  | .object ((key, value) :: members) =>
    have hlay : lay indent (.object ((key, value) :: members)) ++ rest =
        '\x7b' :: (newLine (indent + 1) ++ (quote key ++ (':' :: ' ' :: (lay (indent + 1) value ++
          (layMembers (indent + 1) members ++ (newLine indent ++ '\x7d' :: rest)))))) := by
      simp [lay]
    have hclose : Ends (newLine indent ++ '\x7d' :: rest) := ends_newLine indent
    rw [hlay, tokens?_mark (t := .openBrace) (by decide), tokens?_newLine, tokens?_key,
      tokens?_lay _ value (ends_layMembers _ members hclose),
      tokens?_layMembers _ members hclose, tokens?_newLine,
      tokens?_mark (t := .closeBrace) (by decide)]
    cases tokens? rest <;> simp [tokensOf]

theorem tokens?_layItems (indent : Nat) (items : List Json) {rest : List Char}
    (hrest : Ends rest) :
    tokens? (layItems indent items ++ rest) = (tokens? rest).map (tokensOfItems items ++ ·) := by
  match items with
  | [] => simp [layItems, tokensOfItems]
  | item :: items =>
    have hlay : layItems indent (item :: items) ++ rest =
        ',' :: (newLine indent ++ (lay indent item ++ (layItems indent items ++ rest))) := by
      simp [layItems]
    rw [hlay, tokens?_mark (t := .comma) (by decide), tokens?_newLine,
      tokens?_lay _ item (ends_layItems _ items hrest), tokens?_layItems _ items hrest]
    cases tokens? rest <;> simp [tokensOfItems]

theorem tokens?_layMembers (indent : Nat) (members : List (Option String × Json))
    {rest : List Char} (hrest : Ends rest) :
    tokens? (layMembers indent members ++ rest) =
      (tokens? rest).map (tokensOfMembers members ++ ·) := by
  match members with
  | [] => simp [layMembers, tokensOfMembers]
  | (key, value) :: members =>
    have hlay : layMembers indent ((key, value) :: members) ++ rest =
        ',' :: (newLine indent ++ (quote key ++ (':' :: ' ' :: (lay indent value ++
          (layMembers indent members ++ rest))))) := by
      simp [layMembers]
    rw [hlay, tokens?_mark (t := .comma) (by decide), tokens?_newLine, tokens?_key,
      tokens?_lay _ value (ends_layMembers _ members hrest), tokens?_layMembers _ members hrest]
    cases tokens? rest <;> simp [tokensOfMembers]

end

/-! ## From the tokens to the document -/

/-- No document begins with what ends a list. -/
theorem tokensOf_ne (j : Json) (ts later : List Token) :
    tokensOf j ++ ts ≠ .closeBracket :: later := by
  match j with
  | .null | .bool _ | .number _ | .text _ | .list [] | .list (_ :: _) | .object []
  | .object ((_, _) :: _) => simp [tokensOf]

mutual

/-- **Where a value is due, the tokens of a document are read as the document.** -/
theorem expect_tokensOf (j : Json) (stack : List Frame) (ts : List Token) :
    expect stack (tokensOf j ++ ts) = settle j stack ts := by
  match j with
  | .null | .bool _ | .number _ | .text _ | .list [] | .object [] =>
    simp only [tokensOf, List.cons_append, List.nil_append, expect]
  | .list (item :: items) =>
    have htokens : tokensOf (.list (item :: items)) ++ ts =
        .openBracket :: (tokensOf item ++ (tokensOfItems items ++ .closeBracket :: ts)) := by
      simp [tokensOf]
    rw [htokens, expect, expect_tokensOf item, settle_tokensOfItems items]
    · rfl
    · exact fun later hlater => tokensOf_ne item _ later hlater
  | .object ((key, value) :: members) =>
    have htokens : tokensOf (.object ((key, value) :: members)) ++ ts =
        .openBrace :: .text key :: .colon ::
          (tokensOf value ++ (tokensOfMembers members ++ .closeBrace :: ts)) := by
      simp [tokensOf]
    rw [htokens, expect, expect_tokensOf value, settle_tokensOfMembers members]
    rfl

/-- Behind an item of an open list, the tokens of the other items complete the list. -/
theorem settle_tokensOfItems (items : List Json) (item : Json) (before : List Json)
    (stack : List Frame) (ts : List Token) :
    settle item (.list before :: stack) (tokensOfItems items ++ .closeBracket :: ts) =
      settle (.list (before.reverse ++ item :: items)) stack ts := by
  match items with
  | [] => simp [tokensOfItems, settle]
  | next :: items =>
    have htokens : tokensOfItems (next :: items) ++ .closeBracket :: ts =
        .comma :: (tokensOf next ++ (tokensOfItems items ++ .closeBracket :: ts)) := by
      simp [tokensOfItems]
    rw [htokens, settle, expect_tokensOf next, settle_tokensOfItems items]
    simp

/-- Behind a member of an open object, the tokens of the other members complete the object. -/
theorem settle_tokensOfMembers (members : List (Option String × Json)) (key : Option String)
    (value : Json) (before : List (Option String × Json)) (stack : List Frame)
    (ts : List Token) :
    settle value (.object before key :: stack) (tokensOfMembers members ++ .closeBrace :: ts) =
      settle (.object (before.reverse ++ (key, value) :: members)) stack ts := by
  match members with
  | [] => simp [tokensOfMembers, settle]
  | (key', next) :: members =>
    have htokens : tokensOfMembers ((key', next) :: members) ++ .closeBrace :: ts =
        .comma :: .text key' :: .colon ::
          (tokensOf next ++ (tokensOfMembers members ++ .closeBrace :: ts)) := by
      simp [tokensOfMembers]
    rw [htokens, settle, expect_tokensOf next, settle_tokensOfMembers members]
    simp

end

/-- **Every document is read back from its text.** -/
theorem parse?_pretty (j : Json) : parse? j.pretty = some j := by
  have htokens : tokens? (lay 0 j) = some (tokensOf j) := by
    have hend : Ends [] := fun _ h => by cases h
    have hlay := tokens?_lay 0 j hend
    rw [List.append_nil] at hlay
    rw [hlay, tokens?, Option.map_some, List.append_nil]
  have hread := expect_tokensOf j [] []
  rw [List.append_nil] at hread
  rw [parse?, pretty, String.toList_ofList, htokens, Option.bind_some, ofTokens?, hread, settle]

end Json

end Colloquy
