import Colloquy.Text.CharacterWidth
import Colloquy.Text.Emoji

/-!
# Width — how many columns a text takes

The columns of a text are those of its characters, except where neighbours are drawn as one: an
emoji with its selector or its skin tone, emoji tied by joiners, and the ligatures of some scripts.
So a text is measured from its end, and the columns of a character depend on what follows it: a
`Follower`, possibly with a `Selector` before it.
-/

namespace Colloquy

namespace Text

/-! ## Marks between letters -/

/-- The zero-width joiner. -/
def isJoiner (c : Char) : Bool := c.toNat == 0x200D

/-- A combining mark that is ignored by default: it does not break a ligature. -/
def isIgnorableMark (c : Char) : Bool :=
  within [(0x34F, 0x34F), (0x17B4, 0x17B5), (0x180B, 0x180D), (0x180F, 0x180F), (0xFE00, 0xFE0F),
    (0xE0100, 0xE01EF)] c

/-- The characters without a column that Arabic letters do not join across, as ranges of code
points. -/
def nonTransparentRanges : List (Nat × Nat) :=
  [(0x605, 0x605), (0x890, 0x891), (0x8E2, 0x8E2), (0x9BE, 0x9BE), (0x9D7, 0x9D7), (0xB3E, 0xB3E),
    (0xB57, 0xB57), (0xBBE, 0xBBE), (0xBD7, 0xBD7), (0xCC0, 0xCC0), (0xCC2, 0xCC2), (0xCC7, 0xCC8),
    (0xCCA, 0xCCB), (0xCD5, 0xCD6), (0xD3E, 0xD3E), (0xD4E, 0xD4E), (0xD57, 0xD57), (0xDCF, 0xDCF),
    (0xDDF, 0xDDF), (0x1160, 0x11FF), (0x1715, 0x1715), (0x1734, 0x1734), (0x180E, 0x180E),
    (0x1B35, 0x1B35), (0x1B3B, 0x1B3B), (0x1B3D, 0x1B3D), (0x1B43, 0x1B44), (0x1BAA, 0x1BAA),
    (0x1BF2, 0x1BF3), (0x200C, 0x200D), (0x2065, 0x2069), (0x302E, 0x302F), (0x3164, 0x3164),
    (0xA8FA, 0xA8FA), (0xA953, 0xA953), (0xA9C0, 0xA9C0), (0xD7B0, 0xD7C6), (0xD7CB, 0xD7FB),
    (0xFFA0, 0xFFA0), (0xFFF0, 0xFFF8), (0x111C0, 0x111C0), (0x111C2, 0x111C3), (0x11235, 0x11235),
    (0x1133E, 0x1133E), (0x1134D, 0x1134D), (0x11357, 0x11357), (0x113B8, 0x113B8),
    (0x113C2, 0x113C2), (0x113C5, 0x113C5), (0x113C7, 0x113C9), (0x113CF, 0x113CF),
    (0x113D1, 0x113D1), (0x114B0, 0x114B0), (0x114BD, 0x114BD), (0x115AF, 0x115AF),
    (0x116B6, 0x116B6), (0x11930, 0x11930), (0x1193D, 0x1193D), (0x1193F, 0x1193F),
    (0x11941, 0x11941), (0x11A84, 0x11A89), (0x11D46, 0x11D46), (0x11F02, 0x11F02),
    (0x11F41, 0x11F41), (0x16FF0, 0x16FF1), (0x1D165, 0x1D166), (0x1D16D, 0x1D172),
    (0xE0000, 0xE0000), (0xE0002, 0xE001F), (0xE0080, 0xE00FF), (0xE01F0, 0xE0FFF)]

/-- A mark that Arabic letters join across. -/
def isTransparentMark (c : Char) : Bool := charWidth c == 0 && !within nonTransparentRanges c

/-! ## Letters of ligatures -/

/-- The forms of the Arabic letter alef, as ranges of code points. -/
def alefRanges : List (Nat × Nat) :=
  [(0x622, 0x623), (0x625, 0x625), (0x627, 0x627), (0x671, 0x673), (0x675, 0x675), (0x773, 0x774),
    (0x870, 0x882)]

/-- The forms of the Arabic letter lam, as ranges of code points. -/
def lamRanges : List (Nat × Nat) :=
  [(0x644, 0x644), (0x6B5, 0x6B8), (0x76A, 0x76A), (0x8A6, 0x8A6), (0x8C7, 0x8C7)]

/-- The Tifinagh consonants, as ranges of code points. -/
def tifinaghRanges : List (Nat × Nat) := [(0x2D31, 0x2D65), (0x2D6F, 0x2D6F)]

/-- The Khmer letters that a coeng sign puts below the letter before, as ranges of code points. -/
def khmerSubscriptRanges : List (Nat × Nat) :=
  [(0x1780, 0x1782), (0x1784, 0x1787), (0x1789, 0x178C), (0x178E, 0x1793), (0x1795, 0x1798),
    (0x179B, 0x179D), (0x17A0, 0x17A0), (0x17A2, 0x17A2), (0x17A7, 0x17A7), (0x17AB, 0x17AC),
    (0x17AF, 0x17AF)]

/-- Letters that may be drawn as one with what stands before them. -/
inductive JoiningLetter where
  /-- The Hebrew lamed, which an alef joins. -/
  | lamed
  /-- The Buginese ya. -/
  | ya
  /-- The Buginese ya after its vowel. -/
  | yaWithVowel
  /-- A Tifinagh consonant. -/
  | tifinagh
  /-- A Tifinagh consonant after the consonant joiner. -/
  | tifinaghWithJoiner
  /-- A Lisu tone letter of the second kind. -/
  | lisuTone
  /-- The Old Turkic i, which an ec joins. -/
  | orkhonI
  /-- A Khmer letter with a form below the line. -/
  | khmerSubscript
  deriving DecidableEq, Repr

/-! ## What follows a character -/

/-- What follows a character, as far as it can change the columns of that character. -/
inductive Follower where
  /-- Nothing that matters. -/
  | plain
  /-- A picture. -/
  | picture
  /-- A skin tone. -/
  | skinTone
  /-- A run of regional indicators. -/
  | regional (count : Nat)
  /-- A joiner and a picture. -/
  | tied
  /-- A keycap, a joiner and a picture. -/
  | tiedKeycap
  /-- A run of regional indicators, a joiner and a picture. -/
  | tiedRegional (count : Nat)
  /-- Tag digits, tag letters, the closing tag, a joiner and a picture. -/
  | tiedTags (digits letters : Nat)
  /-- A Kirat Rai vowel sign, the simple one or the one that is its double. -/
  | vowelSign (double : Bool)
  /-- An Arabic alef. -/
  | alef
  /-- A letter of another ligature, with or without a joiner before it. -/
  | letter (l : JoiningLetter) (joined : Bool)
  deriving DecidableEq, Repr

/-- A variation selector that changes columns. -/
inductive Selector where
  /-- Asks for a picture. -/
  | emoji
  /-- Asks for plain text in place of a picture. -/
  | text
  /-- Asks for a fullwidth quotation mark. -/
  | fullwidth
  deriving DecidableEq, Repr

/-- What follows a character, and the selector before it if there is one. -/
structure Sequel where
  follower : Follower
  selector : Option Selector := none
  deriving DecidableEq, Repr

/-- The selector that a character is. -/
def Selector.ofChar? (c : Char) : Option Selector :=
  if c.toNat = 0xFE0F then some .emoji
  else if c.toNat = 0xFE0E then some .text
  else if c.toNat = 0xFE01 then some .fullwidth
  else none

/-- Whether a selector acts on a character. -/
def Selector.actsOn (selector : Selector) (c : Char) : Bool :=
  match selector with
  | .emoji => within emojiSelectableRanges c
  | .text => within textSelectableRanges c
  | .fullwidth => within [(0x2018, 0x2019), (0x201C, 0x201D)] c

namespace Follower

/-- What a character is to the one before it. -/
def ofChar (c : Char) : Follower :=
  if c.toNat ≤ 0xA0 then .plain
  else if isPicture c then .picture
  else if isSkinTone c then .skinTone
  else if isRegional c then .regional 1
  else if within alefRanges c then .alef
  else if within khmerSubscriptRanges c then .letter .khmerSubscript false
  else if within tifinaghRanges c then .letter .tifinagh false
  else if within [(0xA4FC, 0xA4FD)] c then .letter .lisuTone false
  else if c.toNat = 0x5DC then .letter .lamed false
  else if c.toNat = 0x1A10 then .letter .ya false
  else if c.toNat = 0x10C03 then .letter .orkhonI false
  else if c.toNat = 0x16D67 then .vowelSign false
  else if c.toNat = 0x16D68 then .vowelSign true
  else .plain

/-- Whether a selector may stand inside what a character would be drawn with. -/
def admits : Follower → Selector → Bool
  | .alef, _ => true
  | .letter _ _, _ => true
  | .tied, .emoji => true
  | .tiedKeycap, .emoji => true
  | _, _ => false

/-- What is left when a selector did not act on the character before it. -/
def withoutSelector : Follower → Follower
  | .alef => .alef
  | .letter l joined => .letter l joined
  | _ => .plain

/-- A character drawn as one with a letter of a ligature: the columns it adds and what the two
are to the character before. A negative number takes back a column of the letter. -/
def joinLetter (l : JoiningLetter) (joined : Bool) (c : Char) : Option (Int × Follower) :=
  match l with
  | .lamed => if joined && c.toNat == 0x5D0 then some (0, .plain) else none
  | .ya => if joined && c.toNat == 0x1A17 then some (0, .letter .yaWithVowel true) else none
  | .yaWithVowel => if c.toNat = 0x1A15 then some (0, .plain) else none
  | .tifinagh =>
    if c.toNat = 0x2D7F then some (1, .letter .tifinaghWithJoiner false)
    else if joined && within tifinaghRanges c then some (0, .plain)
    else none
  | .tifinaghWithJoiner => if within tifinaghRanges c then some (-1, .plain) else none
  | .lisuTone => if within [(0xA4F8, 0xA4FB)] c then some (0, .plain) else none
  | .orkhonI => if joined && c.toNat == 0x10C32 then some (0, .plain) else none
  | .khmerSubscript => if c.toNat = 0x17D2 then some (-1, .plain) else none

/-- A character drawn as one with what follows it, if it is: the columns it adds and what both
are to the character before.

Regional indicators pair up from the start of their run, so before a joiner the pairing of a
run shifts with each indicator that is found. -/
def join (follower : Follower) (c : Char) : Option (Int × Follower) :=
  match follower with
  | .plain => none
  | .picture => if isJoiner c then some (0, .tied) else none
  | .skinTone =>
    if within skinToneBaseRanges c then some (0, .picture)
    else if isJoiner c then some (0, .tied)
    else none
  | .regional n =>
    if isRegional c then some (1, .regional (n + 1))
    else if isJoiner c && 2 ≤ n then some (0, .tied)
    else none
  | .tied =>
    if isPicture c then some (0, .picture)
    else if isSkinTone c then some (0, .skinTone)
    else if isRegional c then some (1, .tiedRegional 1)
    else if c.toNat = 0x20E3 then some (0, .tiedKeycap)
    else if c.toNat = 0xE007F then some (0, .tiedTags 0 0)
    else none
  | .tiedKeycap => none
  | .tiedRegional n =>
    if isRegional c then some (if n % 2 = 1 then -1 else 3, .tiedRegional (n + 1))
    else if isJoiner c && 2 ≤ n then some (0, .tied)
    else none
  | .tiedTags digits letters =>
    if c.toNat = 0x1F3F4 && (digits == 3 || digits == 0 && 3 ≤ letters) then some (0, .picture)
    else if isTagLetter c && digits == 0 && letters < 6 then some (0, .tiedTags 0 (letters + 1))
    else if isTagDigit c && digits < 3 && letters ≤ 4 then
      some (0, .tiedTags (digits + 1) letters)
    else none
  | .vowelSign false =>
    if c.toNat = 0x16D67 then some (0, .vowelSign true)
    else if c.toNat = 0x16D68 then some (1, .vowelSign false)
    else if c.toNat = 0x16D63 || c.toNat = 0x16D69 then some (0, .plain)
    else none
  | .vowelSign true => if c.toNat = 0x16D63 then some (0, .plain) else none
  | .alef =>
    if within lamRanges c then some (0, .plain)
    else if isTransparentMark c then some (0, .alef)
    else none
  | .letter l joined =>
    if isJoiner c then some (0, .letter l true)
    else if isIgnorableMark c then some (0, .letter l joined)
    else joinLetter l joined c

end Follower

namespace Sequel

/-- The end of a text. -/
def atEnd : Sequel := ⟨.plain, none⟩

/-- A character on which no selector acts: the columns it adds, and what follows the character
before it. -/
def passed (follower : Follower) (c : Char) : Int × Sequel :=
  if c.toNat ≤ 0xA0 then (1, atEnd)
  else match Selector.ofChar? c with
    | some s => (0, ⟨if follower.admits s then follower else .plain, some s⟩)
    | none =>
      let (columns, next) := (follower.join c).getD (charWidth c, .ofChar c)
      (columns, ⟨next, none⟩)

/-- A character put before a sequel: the columns it adds, and what follows the character before
it. -/
def before (sequel : Sequel) (c : Char) : Int × Sequel :=
  match sequel.selector with
  | none => passed sequel.follower c
  | some s =>
    if s.actsOn c then
      match s, sequel.follower with
      | .emoji, .tied => (0, ⟨.picture, none⟩)
      | .emoji, .tiedKeycap => (0, ⟨.picture, none⟩)
      | .emoji, _ => (2, ⟨.picture, none⟩)
      | .text, _ => (1, atEnd)
      | .fullwidth, _ => (2, atEnd)
    else passed sequel.follower.withoutSelector c

end Sequel

/-! ## Measuring -/

/-- The columns of characters, and what they are to a character before them. -/
def measure (cs : List Char) : Int × Sequel :=
  cs.foldr (fun c measured =>
    let (columns, sequel) := measured.2.before c
    (measured.1 + columns, sequel)) (0, Sequel.atEnd)

/-- The columns of a text. -/
def width (s : String) : Nat := (measure s.toList).1.toNat

example : width "\u2764" = 1 ∧ width "\u2764\ufe0f" = 2 := by decide +kernel

example : width "\u0644\u0627" = 1 ∧ width "\u0644\u200c\u0627" = 2 := by decide +kernel

end Text

end Colloquy
