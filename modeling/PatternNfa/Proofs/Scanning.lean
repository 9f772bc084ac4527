import PatternNfa.Proofs.Rejection

/-!
# `PatternNfa.Proofs.Scanning`: scanning loses nothing

Every character of a pattern is a token of its own or refused, and which of the two depends on the
character alone. So the tokens that a scan gives can be told without it: they are the characters one
by one, each as what it means, at the byte where it begins (`Token.Transcribes`). A scan that fails
stops at the first character that is refused.

`Token.scanFrom` goes through the characters and counts bytes as it goes. A scanner can as well be
put together from readers (`Readers`), which take something off the front of a text and give what
remains. Such a scanner never counts: what it has read is as long as the pattern less what remains.
And its readers take a dot in any pattern, so it has to refuse the token afterwards.
`Readers.scan_eq` says that it gives the same tokens and fails at the same character.
-/

set_option autoImplicit false

namespace PatternNfa

/-! ### Characters -/

/-- The character may stand in a pattern. -/
def Flags.Allows (flags : Flags) (c : Char) : Prop :=
  Text.isAlphanumeric c = true ∨ c ∈ ['(', ')', '|', '*'] ∨ c = '.' ∧ flags.explicitConcat = true

/-- What a character means wherever it may stand. -/
inductive Means : Char → Kind → Prop where
  | symbol {c : Char} : Text.isAlphanumeric c = true → Means c (.symbol c)
  | leftParen : Means '(' .leftParen
  | rightParen : Means ')' .rightParen
  | union : Means '|' .union
  | star : Means '*' .star
  | concat : Means '.' .concat

namespace Kind

/-- A character that stands for something means it. -/
theorem means_of_ofChar? {explicitConcat : Bool} {c : Char} {k : Kind}
    (h : ofChar? explicitConcat c = some k) : Means c k := by
  have hchar : k.char = c := char_of_ofChar? h
  subst hchar
  cases k with
  | symbol c => exact .symbol (isAlphanumeric_of_ofChar? h)
  | leftParen => exact .leftParen
  | rightParen => exact .rightParen
  | union => exact .union
  | star => exact .star
  | concat => exact .concat

/-- The characters that stand for something are those that are allowed. -/
theorem isSome_ofChar?_iff (flags : Flags) (c : Char) :
    (ofChar? flags.explicitConcat c).isSome ↔ flags.Allows c := by
  constructor
  · intro h
    obtain ⟨k, hk⟩ := Option.isSome_iff_exists.mp h
    cases means_of_ofChar? hk with
    | symbol hc => exact .inl hc
    | leftParen | rightParen | union | star => exact .inr (.inl (by decide))
    | concat =>
        refine .inr (.inr ⟨rfl, ?_⟩)
        cases hflags : flags.explicitConcat with
        | true => rfl
        | false =>
            rw [hflags] at hk
            cases hk
  · rintro (hc | hc | ⟨rfl, hexplicit⟩)
    · rw [ofChar?_of_isAlphanumeric _ hc]
      rfl
    · simp only [List.mem_cons, List.not_mem_nil, or_false] at hc
      rcases hc with rfl | rfl | rfl | rfl <;> rfl
    · rw [hexplicit]
      rfl

/-- A dot is all that patterns without written concatenations do not take. -/
theorem ofChar?_eq (explicitConcat : Bool) (c : Char) :
    ofChar? explicitConcat c =
      match ofChar? true c with
      | none => none
      | some k => if k ≠ concat ∨ explicitConcat = true then some k else none := by
  unfold ofChar?
  split
  case h_6 => split <;> simp
  all_goals simp

end Kind

namespace Token

/-! ### The tokens of a scan -/

/-- The tokens are the characters of the pattern, one by one. -/
structure Transcribes (pattern : String) (ts : List Token) : Prop where
  /-- There is a token for each character, of the kind that the character means. -/
  kinds : List.Forall₂ Means pattern.toList (ts.map kind)
  text_eq : text ts = pattern
  /-- A token stands behind the bytes of all that is written before it. -/
  offset_eq : ∀ us t vs, ts = us ++ t :: vs → t.offset = (text us).utf8ByteSize
  /-- No token stands inside a character. -/
  isValid : ∀ t ∈ ts, String.Pos.Raw.IsValid pattern ⟨t.offset⟩
  increasing : ts.Pairwise (·.offset < ·.offset)

/-- The kinds of tokens are what their characters mean. -/
theorem forall₂_means {explicitConcat : Bool} {ts : List Token}
    (h : ∀ t ∈ ts, Spelt explicitConcat t) : List.Forall₂ Means (ts.map char) (ts.map kind) := by
  rw [List.forall₂_map_left_iff, List.forall₂_map_right_iff, List.forall₂_same]
  exact fun t ht => Kind.means_of_ofChar? (h t ht)

/-- Every character takes up a byte at least, so the next token stands further on. -/
theorem scanFrom_increasing {flags : Flags} {offset : Nat} {cs : List Char} {ts : List Token}
    (h : scanFrom flags offset cs = .ok ts) :
    ts.Pairwise (·.offset < ·.offset) ∧ ∀ t ∈ ts, offset ≤ t.offset := by
  induction cs generalizing offset ts with
  | nil =>
      cases h
      simp
  | cons c cs ih =>
      rw [scanFrom] at h
      split at h
      · cases h
      · obtain ⟨rest, hrest, rfl⟩ := Except.exists_of_map_eq_ok h
        obtain ⟨hincreasing, hle⟩ := ih hrest
        have hpos : 0 < c.utf8Size := Char.utf8Size_pos c
        rw [List.pairwise_cons, List.forall_mem_cons]
        refine ⟨⟨fun t ht => ?_, hincreasing⟩, Nat.le_refl offset, fun t ht => ?_⟩
        · exact Nat.lt_of_lt_of_le (Nat.lt_add_of_pos_right hpos) (hle t ht)
        · exact Nat.le_trans (Nat.le_add_right _ _) (hle t ht)

/-- A scan that succeeds gives the characters one by one. -/
theorem Transcribes.of_scan {flags : Flags} {pattern : String} {ts : List Token}
    (h : scan flags pattern = .ok ts) : Transcribes pattern ts := by
  obtain ⟨hchars, hspelt⟩ := scanFrom_eq_ok h
  have htext : text ts = pattern := by rw [text, hchars, String.ofList_toList]
  have hoffset : ∀ us t vs, ts = us ++ t :: vs → t.offset = (text us).utf8ByteSize := by
    rintro us t vs rfl
    rw [offset_of_scanFrom h, Nat.zero_add, text, Text.utf8ByteSize_ofList]
  refine ⟨hchars ▸ forall₂_means hspelt, htext, hoffset, fun t ht => ?_,
    (scanFrom_increasing h).1⟩
  obtain ⟨us, vs, hsplit⟩ := List.append_of_mem ht
  rw [String.Pos.Raw.isValid_iff_exists_append]
  refine ⟨text us, text (t :: vs), ?_, ?_⟩
  · rw [← htext, hsplit, text, List.map_append, String.ofList_append, text, text]
  · rw [hoffset us t vs hsplit]
    rfl

/-- A scan succeeds if it is given nothing that it refuses. -/
theorem exists_scan_iff (flags : Flags) (pattern : String) :
    (∃ ts, scan flags pattern = .ok ts) ↔ ∀ c ∈ pattern.toList, flags.Allows c := by
  constructor
  · rintro ⟨ts, hts⟩
    obtain ⟨hchars, hspelt⟩ := scanFrom_eq_ok hts
    rw [← hchars, List.forall_mem_map]
    intro t ht
    rw [← Kind.isSome_ofChar?_iff, hspelt t ht]
    rfl
  · intro hallowed
    cases hscan : scan flags pattern with
    | ok ts => exact ⟨ts, rfl⟩
    | error cause =>
        obtain ⟨u, c, v, hpattern, -, hc, -⟩ := scanFrom_eq_error hscan
        have hc' := hallowed c (by rw [hpattern]; simp)
        rw [← Kind.isSome_ofChar?_iff, hc] at hc'
        cases hc'

end Token

/-! ### Readers -/

/-- Takes something off the front of a text. The answer comes with what remains of the text. -/
abbrev Reader (α : Type) := List Char → Option (List Char × α)

/-- Readers for single characters and ways to make readers of others, whatever they are made of. -/
structure Readers where
  /-- Reads the given character. -/
  char : Char → Reader Char
  /-- Reads any character with the property. -/
  satisfy : (Char → Bool) → Reader Char
  /-- Reads with the first of the readers that reads anything. -/
  alt : {α : Type} → List (Reader α) → Reader α
  /-- Reads with the reader and puts what it reads differently. -/
  map : {α β : Type} → (α → β) → Reader α → Reader β
  /-- Reads with the reader and gives the value instead. -/
  value : {α β : Type} → β → Reader α → Reader β
  char_cons : ∀ d c cs, char d (c :: cs) = if c = d then some (cs, c) else none
  satisfy_cons : ∀ p c cs, satisfy p (c :: cs) = if p c then some (cs, c) else none
  alt_nil : ∀ {α : Type} input, alt ([] : List (Reader α)) input = none
  alt_cons : ∀ {α : Type} (r : Reader α) rs input, alt (r :: rs) input = (r input).or (alt rs input)
  map_apply : ∀ {α β : Type} (f : α → β) (r : Reader α) input,
    map f r input = (r input).map fun (rest, a) => (rest, f a)
  value_apply : ∀ {α β : Type} (b : β) (r : Reader α) input,
    value b r input = (r input).map fun (rest, _) => (rest, b)

namespace Readers

variable (readers : Readers)

/-- Reads a symbol. -/
def symbol : Reader Kind := readers.map .symbol (readers.satisfy Text.isAlphanumeric)

/-- Reads a token that is no symbol, a dot among them. -/
def operator : Reader Kind :=
  readers.alt
    ([.leftParen, .rightParen, .union, .star, .concat].map fun k : Kind =>
      readers.value k (readers.char k.char))

/-- Reads a token of any kind. -/
def token : Reader Kind := readers.alt [readers.symbol, readers.operator]

/-- A character that means something is read as what it means. -/
theorem token_cons (c : Char) (cs : List Char) :
    readers.token (c :: cs) = (Kind.ofChar? true c).map fun k => (cs, k) := by
  simp only [token, symbol, operator, List.map_cons, List.map_nil, readers.alt_cons,
    readers.alt_nil, readers.map_apply, readers.value_apply, readers.satisfy_cons,
    readers.char_cons]
  cases hk : Kind.ofChar? true c with
  | some k =>
      cases Kind.means_of_ofChar? hk with
      | symbol hc =>
          rw [if_pos hc]
          rfl
      | leftParen | rightParen | union | star | concat => rfl
  | none =>
      have hsymbol : ¬ Text.isAlphanumeric c = true := by
        intro hc
        rw [Kind.ofChar?_of_isAlphanumeric true hc] at hk
        cases hk
      have hoperator : ∀ k : Kind, k.isSymbol = false → c ≠ k.char := by
        rintro k hkind rfl
        rw [Kind.ofChar?_char hkind] at hk
        cases hk
      rw [if_neg hsymbol, if_neg (hoperator .leftParen rfl), if_neg (hoperator .rightParen rfl),
        if_neg (hoperator .union rfl), if_neg (hoperator .star rfl),
        if_neg (hoperator .concat rfl)]
      rfl

/-- The tokens of what remains of a pattern. -/
def scanRest (flags : Flags) (pattern : String) : List Char → Except ParseError (List Token)
  | [] => .ok []
  | c :: cs =>
      let offset := pattern.utf8ByteSize - Text.utf8Size (c :: cs)
      match _h : readers.token (c :: cs) with
      | none => .error (.invalidCharacter c offset)
      | some (rest, kind) =>
          if kind ≠ .concat ∨ flags.explicitConcat = true then
            (scanRest flags pattern rest).map ({ kind, offset } :: ·)
          else .error (.invalidCharacter c offset)
termination_by rest => rest.length
decreasing_by
  rw [token_cons] at _h
  obtain ⟨k, -, hk⟩ := Option.map_eq_some_iff.mp _h
  cases hk
  exact Nat.lt_succ_self _

/-- The tokens of a pattern, read one after another. -/
def scan (flags : Flags) (pattern : String) : Except ParseError (List Token) :=
  readers.scanRest flags pattern pattern.toList

/-- A dot that was read as a token is refused where concatenations are not written. -/
theorem scanRest_cons (flags : Flags) (pattern : String) (c : Char) (cs : List Char) :
    readers.scanRest flags pattern (c :: cs) =
      let offset := pattern.utf8ByteSize - Text.utf8Size (c :: cs)
      match Kind.ofChar? flags.explicitConcat c with
      | none => .error (.invalidCharacter c offset)
      | some kind => (readers.scanRest flags pattern cs).map ({ kind, offset } :: ·) := by
  rw [scanRest, Kind.ofChar?_eq]
  split
  · rename_i htoken
    rw [token_cons, Option.map_eq_none_iff] at htoken
    rw [htoken]
  · rename_i rest kind htoken
    rw [token_cons, Option.map_eq_some_iff] at htoken
    obtain ⟨k, hk, hpair⟩ := htoken
    cases hpair
    simp only [hk]
    split <;> rfl

/-- What has been read is as long as the pattern less what remains. -/
theorem scanRest_eq {flags : Flags} {pattern : String} {read rest : List Char}
    (h : pattern.toList = read ++ rest) :
    readers.scanRest flags pattern rest =
      Token.scanFrom flags (Text.utf8Size read) rest := by
  induction rest generalizing read with
  | nil => rw [scanRest, Token.scanFrom]
  | cons c cs ih =>
      have hoffset : pattern.utf8ByteSize - Text.utf8Size (c :: cs) = Text.utf8Size read := by
        rw [← Text.utf8Size_toList, h, Text.utf8Size_append, Nat.add_sub_cancel]
      have hrest : readers.scanRest flags pattern cs =
          Token.scanFrom flags (Text.utf8Size read + c.utf8Size) cs := by
        rw [← Text.utf8Size_singleton, ← Text.utf8Size_append]
        exact ih (by rw [h, List.append_assoc, List.singleton_append])
      rw [scanRest_cons, hoffset, hrest]
      rfl

/-- Readers scan as the counting scanner does. -/
theorem scan_eq (flags : Flags) (pattern : String) :
    readers.scan flags pattern = Token.scan flags pattern := by
  have hread : pattern.toList = [] ++ pattern.toList := rfl
  exact readers.scanRest_eq hread

/-- Readers that look at the first character and go no further. -/
def plain : Readers where
  char d
    | [] => none
    | c :: cs => if c = d then some (cs, c) else none
  satisfy p
    | [] => none
    | c :: cs => if p c then some (cs, c) else none
  alt rs input := rs.findSome? (· input)
  map f r input := (r input).map fun (rest, a) => (rest, f a)
  value b r input := (r input).map fun (rest, _) => (rest, b)
  char_cons _ _ _ := rfl
  satisfy_cons _ _ _ := rfl
  alt_nil _ := rfl
  alt_cons r rs input := by
    rw [List.findSome?_cons]
    cases r input <;> rfl
  map_apply _ _ _ := rfl
  value_apply _ _ _ := rfl

end Readers

/-- A pattern is scanned exactly if each of its characters may stand in it, and its tokens are its
characters, one by one. Otherwise the scan fails at the first character that may not, behind all the
bytes of those before it. A scanner that is put together from readers, and is told nothing else than
what they read and what they leave, does the same. -/
theorem Token.scan_transcribes (flags : Flags) (pattern : String) :
    ((∃ ts, scan flags pattern = .ok ts) ↔ ∀ c ∈ pattern.toList, flags.Allows c) ∧
      (∀ ts, scan flags pattern = .ok ts → Transcribes pattern ts) ∧
      (∀ cause, scan flags pattern = .error cause →
        ∃ u c v, pattern.toList = u ++ c :: v ∧ (∀ d ∈ u, flags.Allows d) ∧ ¬ flags.Allows c ∧
          cause = .invalidCharacter c (String.ofList u).utf8ByteSize) ∧
      ∀ readers : Readers, readers.scan flags pattern = scan flags pattern := by
  refine ⟨exists_scan_iff flags pattern, fun ts => .of_scan, fun cause hscan => ?_,
    fun readers => readers.scan_eq flags pattern⟩
  obtain ⟨u, c, v, hpattern, hu, hc, hcause⟩ := scanFrom_eq_error hscan
  refine ⟨u, c, v, hpattern, fun d hd => (Kind.isSome_ofChar?_iff flags d).mp (hu d hd), ?_, ?_⟩
  · rw [← Kind.isSome_ofChar?_iff, hc]
    exact Bool.false_ne_true
  · rw [hcause, Nat.zero_add, Text.utf8ByteSize_ofList]

/-- The first character takes up two bytes, so the bar stands at the third one and the dot at the
fourth. -/
theorem Token.scan_transcribes_of_accent :
    Transcribes "é|" [⟨.symbol 'é', 0⟩, ⟨.union, 2⟩] ∧
      Readers.plain.scan {} "é|." = .error (.invalidCharacter '.' 3) := by
  have hok : scan {} "é|" = .ok [⟨.symbol 'é', 0⟩, ⟨.union, 2⟩] := by decide
  have herror : scan {} "é|." = .error (.invalidCharacter '.' 3) := by decide
  obtain ⟨-, htranscribes, -, -⟩ := scan_transcribes {} "é|"
  obtain ⟨-, -, -, hreaders⟩ := scan_transcribes {} "é|."
  exact ⟨htranscribes _ hok, (hreaders Readers.plain).trans herror⟩

end PatternNfa
