import QoveryEngine.Proofs.Json
import QoveryEngine.JsonText

/-!
# Proofs: serde_json reads only JSON texts

What `from_str` accepts is well formed: whenever serde_json reads a value from a prefix of the
input, the JSON grammar reads the same prefix as a value, and both stop at the same place (the
grammar also takes the whitespace after the value). The proof follows the parser from its
leaves up: whitespace, strings with their escapes, numbers, then arrays and objects through
their element and entry loops, and values by induction on the recursion budget. The grammar's
fuel is the length of the input, and every step of the parser consumes input, so the fuel is
always enough.

The converse fails: serde_json refuses some JSON texts, for an escaped key where the keys are
borrowed, for nesting beyond its recursion limit, and for a number beyond the range of `f64`.
-/

namespace QoveryEngine.Json

open JsonText (ws digits int frac exp number stringChars items member)

/-! ## Whitespace -/


theorem isWhitespace_eq_isWs : isWhitespace = JsonText.isWs := by
  funext c; simp only [isWhitespace, JsonText.isWs]; ac_rfl

@[simp] theorem parseWhitespace_eq_ws (cs : List Char) : parseWhitespace cs = ws cs := by
  rw [parseWhitespace, JsonText.ws, isWhitespace_eq_isWs]

@[simp] theorem ws_ws (cs : List Char) : ws (ws cs) = ws cs := List.dropWhile_idempotent _ _

theorem length_ws_le (cs : List Char) : (ws cs).length ≤ cs.length :=
  (List.dropWhile_suffix _).length_le

theorem length_lt_of_ws {cs r : List Char} {c : Char} (h : ws cs = c :: r) : r.length < cs.length :=
  calc r.length < (c :: r).length := Nat.lt_succ_self _
    _ = (ws cs).length := by rw [h]
    _ ≤ cs.length := length_ws_le cs

theorem value_ws (f : Nat) (cs : List Char) : JsonText.value f (ws cs) = JsonText.value f cs := by
  cases f with
  | zero => rfl
  | succ f => rw [JsonText.value.eq_2, JsonText.value.eq_2, ws_ws]

/-! ## Strings -/

theorem isHexDigit_of_hexValue {c : Char} {v : Nat} (h : hexValue c = some v) :
    JsonText.isHexDigit c = true := by
  unfold hexValue at h
  simp only [JsonText.isHexDigit, Bool.or_eq_true, Bool.and_eq_true, decide_eq_true_eq]
  split_ifs at h with h₁ h₂ h₃
  · exact .inl (.inl h₁)
  · exact .inl (.inr h₂)
  · exact .inr h₃

theorem isHexDigit_of_hex4 {a b c d : Char} {n : Nat} (h : hex4 a b c d = some n) :
    (JsonText.isHexDigit a && JsonText.isHexDigit b && JsonText.isHexDigit c &&
      JsonText.isHexDigit d) = true := by
  unfold hex4 at h
  cases ha : hexValue a <;> cases hb : hexValue b <;> cases hc : hexValue c <;>
    cases hd : hexValue d <;> simp only [ha, hb, hc, hd] at h <;> try cases h
  simp [isHexDigit_of_hexValue ha, isHexDigit_of_hexValue hb, isHexDigit_of_hexValue hc,
    isHexDigit_of_hexValue hd]

theorem stringChars_unicode {a b c d : Char} {n : Nat} (h : hex4 a b c d = some n) (cs : List Char) :
    stringChars ('\\' :: 'u' :: a :: b :: c :: d :: cs) = stringChars cs := by
  rw [JsonText.stringChars.eq_2, isHexDigit_of_hex4 h, if_pos rfl]

theorem stringChars_simpleEscape {e ch : Char} (h : simpleEscape e = some ch) (he : e ≠ 'u')
    (cs : List Char) : stringChars ('\\' :: e :: cs) = stringChars cs := by
  rw [JsonText.stringChars.eq_3 _ _ fun _ _ _ _ _ h' => absurd h' he, if_pos]
  unfold simpleEscape at h
  split at h <;> simp_all

/-- An escape that `parse_escape` reads is an escape of the grammar, of at least one character. -/
theorem stringChars_of_parseEscape {cs rest : List Char} {ch : Char}
    (h : parseEscape cs = .ok (ch, rest)) :
    stringChars ('\\' :: cs) = stringChars rest ∧ rest.length < cs.length := by
  rcases cs with _ | ⟨e, cs⟩
  · cases h
  rw [parseEscape.eq_def] at h
  dsimp only at h
  by_cases hu : e = 'u'
  · rw [if_pos hu] at h
    subst hu
    rcases cs with _ | ⟨a, _ | ⟨b, _ | ⟨c, _ | ⟨d, cs⟩⟩⟩⟩
    any_goals cases h
    dsimp only at h
    cases hx : hex4 a b c d with
    | none => rw [hx] at h; cases h
    | some n =>
      rw [hx] at h
      dsimp only at h
      rw [stringChars_unicode hx]
      by_cases hlo : 0xDC00 ≤ n ∧ n ≤ 0xDFFF
      · rw [if_pos hlo] at h; cases h
      rw [if_neg hlo] at h
      by_cases hbmp : n < 0xD800 ∨ 0xDBFF < n
      · rw [if_pos hbmp] at h
        obtain ⟨-, rfl⟩ := Prod.mk.inj (Except.ok.inj h)
        exact ⟨rfl, by simp only [List.length_cons]; omega⟩
      rw [if_neg hbmp] at h
      -- a leading surrogate: `\u` and the trailing one must follow
      rcases cs with _ | ⟨c₁, cs⟩
      · cases h
      dsimp only at h
      by_cases h₁ : c₁ = '\\'
      swap
      · rw [if_neg h₁] at h; cases h
      rw [if_pos h₁] at h
      subst h₁
      rcases cs with _ | ⟨c₂, cs⟩
      · cases h
      dsimp only at h
      by_cases h₂ : c₂ = 'u'
      swap
      · rw [if_neg h₂] at h; cases h
      rw [if_pos h₂] at h
      subst h₂
      rcases cs with _ | ⟨a', _ | ⟨b', _ | ⟨c', _ | ⟨d', cs⟩⟩⟩⟩
      any_goals cases h
      dsimp only at h
      cases hx' : hex4 a' b' c' d' with
      | none => rw [hx'] at h; cases h
      | some n' =>
        rw [hx'] at h
        dsimp only at h
        by_cases hlo' : 0xDC00 ≤ n' ∧ n' ≤ 0xDFFF
        swap
        · rw [if_neg hlo'] at h; cases h
        rw [if_pos hlo'] at h
        obtain ⟨-, rfl⟩ := Prod.mk.inj (Except.ok.inj h)
        exact ⟨stringChars_unicode hx' _, by simp only [List.length_cons]; omega⟩
  · rw [if_neg hu] at h
    cases hs : simpleEscape e with
    | none => rw [hs] at h; cases h
    | some ch =>
      rw [hs] at h
      cases h
      exact ⟨stringChars_simpleEscape hs hu _, by simp⟩

/-- What `parse_str` reads after the opening quote is the characters of a string of the grammar
and its closing quote. -/
theorem stringChars_of_parseStrChars :
    ∀ (fuel : Nat) (cs acc : List Char) (esc : Bool) (s : String) (esc' : Bool) (rest : List Char),
      parseStrChars fuel cs acc esc = .ok (s, esc', rest) →
      stringChars cs = some rest ∧ rest.length < cs.length
  | 0, _, _, _, _, _, _, h => by cases h
  | _ + 1, [], _, _, _, _, _, h => by cases h
  | fuel + 1, c :: cs, acc, esc, s, esc', rest, h => by
    have ih := stringChars_of_parseStrChars fuel
    rw [parseStrChars] at h
    by_cases hq : c = '"'
    · rw [if_pos hq] at h
      cases h
      subst hq
      exact ⟨rfl, by simp⟩
    rw [if_neg hq] at h
    by_cases hb : c = '\\'
    · rw [if_pos hb] at h
      subst hb
      obtain ⟨⟨ch, cs'⟩, he, h⟩ := bind_eq_ok.mp h
      obtain ⟨h₁, h₂⟩ := ih _ _ _ _ _ _ h
      obtain ⟨h₃, h₄⟩ := stringChars_of_parseEscape he
      exact ⟨h₃.trans h₁, by simp; omega⟩
    rw [if_neg hb] at h
    by_cases hctl : c.toNat < 0x20
    · rw [if_pos hctl] at h; cases h
    rw [if_neg hctl] at h
    obtain ⟨h₁, h₂⟩ := ih _ _ _ _ _ _ h
    refine ⟨?_, by simp; omega⟩
    rw [JsonText.stringChars.eq_4 _ _ hq (fun _ _ _ _ _ h _ => hb h) (fun _ _ h _ => hb h),
      if_pos ⟨hb, by omega⟩]
    exact h₁

/-! ## Numbers

Each loop of the number parser leaves what the grammar leaves after the digits the loop reads:
the exponent's functions what `exp` leaves, and the fraction's and the integer's loops what
`frac` and then `exp` leave after `cs.dropWhile Char.isDigit`. -/

/-- A first digit and the digits after it are what the grammar's `digits` reads. -/
theorem digits_cons_of_isDigit {c : Char} (hc : c.isDigit) (cs : List Char) :
    digits (c :: cs) = some ((c :: cs).dropWhile Char.isDigit) := by
  rw [JsonText.digits, if_pos hc, List.dropWhile_cons_of_pos hc]

theorem length_dropWhile_isDigit_le (cs : List Char) :
    (cs.dropWhile Char.isDigit).length ≤ cs.length :=
  (List.dropWhile_suffix _).length_le

/-- A result paired with the input it was read from leaves that input. -/
theorem rest_of_map_pair {α : Type} {x : Except ErrorCode α} {cs rest : List Char} {n : α}
    (h : x.map (fun n => (n, cs)) = .ok (n, rest)) : rest = cs := by
  obtain ⟨_, -, he⟩ := map_eq_ok.mp h
  exact (congrArg Prod.snd he).symm

/-- Without an `e` or `E` the grammar's `exp` reads nothing. -/
theorem exp_of_not_exponent {cs : List Char} (he : ∀ r, cs ≠ 'e' :: r) (hE : ∀ r, cs ≠ 'E' :: r) :
    exp cs = some cs := by
  unfold JsonText.exp
  split <;> simp_all

/-- Without a `.` the grammar's `frac` reads nothing. -/
theorem frac_of_not_fraction {cs : List Char} (h : ∀ r, cs ≠ '.' :: r) : frac cs = some cs := by
  unfold JsonText.frac
  split <;> simp_all

/-- The grammar's exponent after `e` or `E` starts with `parse_exponent`'s sign. -/
theorem exp_eq_digits_exponentSign (cs : List Char) :
    exp ('e' :: cs) = digits (exponentSign cs).2 ∧ exp ('E' :: cs) = digits (exponentSign cs).2 := by
  simp only [JsonText.exp, exponentSign]
  constructor <;> split <;> simp_all

theorem length_exponentSign_le (cs : List Char) : (exponentSign cs).2.length ≤ cs.length := by
  unfold exponentSign
  split <;> simp

/-- The digit loop of `parse_exponent` stops after the digits, also when the exponent
overflows. -/
theorem parseExponentDigits_rest {p : Bool} {s : Nat} {e : Int} {b : Bool} (cs : List Char) :
    ∀ {x : Nat} {rest : List Char} {n : ParserNumber},
      parseExponentDigits p s e b x cs = .ok (n, rest) → rest = cs.dropWhile Char.isDigit := by
  induction cs with
  | nil =>
    intro x rest n h
    rw [parseExponentDigits, parseExponentEnd] at h
    exact rest_of_map_pair h
  | cons c cs ih =>
    intro x rest n h
    rw [parseExponentDigits] at h
    by_cases hc : c.isDigit
    · rw [if_pos hc] at h
      rw [List.dropWhile_cons_of_pos hc]
      split_ifs at h
      · unfold parseExponentOverflow at h
        split_ifs at h
        cases h
        rfl
      · exact ih h
    · rw [if_neg hc, parseExponentEnd] at h
      rw [List.dropWhile_cons_of_neg hc]
      exact rest_of_map_pair h

/-- An exponent, with or without a sign, is what the grammar's `exp` reads after the `e` or
`E`. -/
theorem exp_of_parseExponent {p : Bool} {s : Nat} {e : Int} {cs rest : List Char}
    {n : ParserNumber} (h : parseExponent p s e cs = .ok (n, rest)) :
    exp ('e' :: cs) = some rest ∧ exp ('E' :: cs) = some rest ∧ rest.length < cs.length := by
  obtain ⟨he, hE⟩ := exp_eq_digits_exponentSign cs
  have hlen := length_exponentSign_le cs
  unfold parseExponent at h
  rcases hs : exponentSign cs with ⟨b, _ | ⟨c, r⟩⟩ <;> rw [hs] at h he hE hlen <;>
    dsimp only at h
  · cases h
  by_cases hc : c.isDigit
  · rw [if_pos hc] at h
    have hr := parseExponentDigits_rest r h
    rw [digits_cons_of_isDigit hc, List.dropWhile_cons_of_pos hc, ← hr] at he hE
    have := length_dropWhile_isDigit_le r
    rw [← hr] at this
    exact ⟨he, hE, by simp only [List.length_cons] at hlen; omega⟩
  · rw [if_neg hc] at h
    cases h

/-- After a significand, `parse_exponent` or `f64_from_parts` leaves what `exp` leaves. -/
theorem exp_of_parseExponentOrParts {p : Bool} {s : Nat} {e : Int} {cs rest : List Char}
    {n : ParserNumber} (h : parseExponentOrParts p s e cs = .ok (n, rest)) :
    exp cs = some rest ∧ rest.length ≤ cs.length := by
  unfold parseExponentOrParts at h
  split at h
  · obtain ⟨h₁, -, h₂⟩ := exp_of_parseExponent h
    exact ⟨h₁, by simp only [List.length_cons]; omega⟩
  · obtain ⟨-, h₁, h₂⟩ := exp_of_parseExponent h
    exact ⟨h₁, by simp only [List.length_cons]; omega⟩
  · rename_i he hE
    rw [rest_of_map_pair h]
    exact ⟨exp_of_not_exponent he hE, le_rfl⟩

/-- The digit loop of `parse_decimal` leaves what `exp` leaves after the digits, and it reads at
least one digit when it starts. -/
theorem parseDecimalDigits_rest {p : Bool} {eb : Int} (cs : List Char) :
    ∀ {s : Nat} {ea : Int} {rest : List Char} {n : ParserNumber},
      parseDecimalDigits p eb s ea cs = .ok (n, rest) →
        exp (cs.dropWhile Char.isDigit) = some rest ∧ rest.length ≤ cs.length ∧
          (ea = 0 → ∃ c r, cs = c :: r ∧ c.isDigit) := by
  induction cs with
  | nil =>
    intro s ea rest n h
    rw [parseDecimalDigits] at h
    split_ifs at h with hea
    obtain ⟨h₁, h₂⟩ := exp_of_parseExponentOrParts h
    exact ⟨h₁, h₂, fun h0 => absurd h0 hea⟩
  | cons c cs ih =>
    intro s ea rest n h
    rw [parseDecimalDigits] at h
    by_cases hc : c.isDigit
    · rw [if_pos hc] at h
      rw [List.dropWhile_cons_of_pos hc]
      refine (and_assoc.mp ⟨?_, fun _ => ⟨c, cs, rfl, hc⟩⟩)
      split_ifs at h
      · -- the significand is full: the remaining digits are skipped
        rw [parseDecimalOverflow, List.dropWhile_cons_of_pos hc] at h
        obtain ⟨h₁, h₂⟩ := exp_of_parseExponentOrParts h
        have := length_dropWhile_isDigit_le cs
        exact ⟨h₁, by simp only [List.length_cons]; omega⟩
      · obtain ⟨h₁, h₂, -⟩ := ih h
        exact ⟨h₁, by simp only [List.length_cons]; omega⟩
    · rw [if_neg hc] at h
      rw [List.dropWhile_cons_of_neg hc]
      split_ifs at h with hea
      obtain ⟨h₁, h₂⟩ := exp_of_parseExponentOrParts h
      exact ⟨h₁, h₂, fun h0 => absurd h0 hea⟩

/-- A fraction `parse_decimal` reads after the point is what `frac` and `exp` read. -/
theorem fracExp_of_parseDecimal {p : Bool} {s : Nat} {eb : Int} {cs rest : List Char}
    {n : ParserNumber} (h : parseDecimal p s eb cs = .ok (n, rest)) :
    (frac ('.' :: cs)).bind exp = some rest ∧ rest.length ≤ cs.length := by
  obtain ⟨h₁, h₂, h₃⟩ := parseDecimalDigits_rest cs h
  obtain ⟨c, r, rfl, hc⟩ := h₃ rfl
  show (digits (c :: r)).bind exp = some rest ∧ _
  rw [digits_cons_of_isDigit hc, Option.some_bind]
  exact ⟨h₁, h₂⟩

/-- After its digits, `parse_long_integer` reads what `frac` and `exp` read. -/
theorem fracExp_of_parseLongInteger {p : Bool} {s : Nat} (cs : List Char) :
    ∀ {e : Int} {rest : List Char} {n : ParserNumber},
      parseLongInteger p s e cs = .ok (n, rest) →
        (frac (cs.dropWhile Char.isDigit)).bind exp = some rest ∧ rest.length ≤ cs.length := by
  induction cs with
  | nil =>
    intro e rest n h
    rw [parseLongInteger] at h
    rw [rest_of_map_pair h]
    exact ⟨rfl, le_rfl⟩
  | cons c cs ih =>
    intro e rest n h
    rw [parseLongInteger] at h
    by_cases hc : c.isDigit
    · rw [if_pos hc] at h
      rw [List.dropWhile_cons_of_pos hc]
      obtain ⟨h₁, h₂⟩ := ih h
      exact ⟨h₁, by simp only [List.length_cons]; omega⟩
    rw [if_neg hc] at h
    rw [List.dropWhile_cons_of_neg hc]
    by_cases hd : c = '.'
    · subst hd
      rw [if_pos rfl] at h
      obtain ⟨h₁, h₂⟩ := fracExp_of_parseDecimal h
      exact ⟨h₁, by simp only [List.length_cons]; omega⟩
    rw [if_neg hd] at h
    have hf : frac (c :: cs) = some (c :: cs) := frac_of_not_fraction (by simp [hd])
    rw [hf, Option.some_bind]
    split_ifs at h with he
    · obtain ⟨h₁, h₁', h₂⟩ := exp_of_parseExponent h
      rcases he with rfl | rfl
      · exact ⟨h₁, by simp only [List.length_cons]; omega⟩
      · exact ⟨h₁', by simp only [List.length_cons]; omega⟩
    · rw [rest_of_map_pair h]
      simp only [not_or] at he
      exact ⟨exp_of_not_exponent (by simp [he.1]) (by simp [he.2]), le_rfl⟩

/-- `parse_number` reads what `frac` and `exp` read. -/
theorem fracExp_of_parseNumber {p : Bool} {s : Nat} {cs rest : List Char} {n : ParserNumber}
    (h : parseNumber p s cs = .ok (n, rest)) :
    (frac cs).bind exp = some rest ∧ rest.length ≤ cs.length := by
  unfold parseNumber at h
  split at h
  · obtain ⟨h₁, h₂⟩ := fracExp_of_parseDecimal h
    exact ⟨h₁, by simp only [List.length_cons]; omega⟩
  · obtain ⟨h₁, -, h₂⟩ := exp_of_parseExponent h
    exact ⟨h₁, by simp only [List.length_cons]; omega⟩
  · obtain ⟨-, h₁, h₂⟩ := exp_of_parseExponent h
    exact ⟨h₁, by simp only [List.length_cons]; omega⟩
  · cases h
    rename_i hf he hE
    rw [frac_of_not_fraction hf, Option.some_bind]
    exact ⟨exp_of_not_exponent he hE, le_rfl⟩

/-- The digit loop of `parse_integer` reads what `frac` and `exp` read after the digits. -/
theorem fracExp_of_parseIntegerDigits {p : Bool} (cs : List Char) :
    ∀ {s : Nat} {rest : List Char} {n : ParserNumber},
      parseIntegerDigits p s cs = .ok (n, rest) →
        (frac (cs.dropWhile Char.isDigit)).bind exp = some rest ∧ rest.length ≤ cs.length := by
  induction cs with
  | nil =>
    intro s rest n h
    rw [parseIntegerDigits] at h
    exact fracExp_of_parseNumber h
  | cons c cs ih =>
    intro s rest n h
    rw [parseIntegerDigits] at h
    by_cases hc : c.isDigit
    · rw [if_pos hc] at h
      split_ifs at h
      · exact fracExp_of_parseLongInteger _ h
      · rw [List.dropWhile_cons_of_pos hc]
        obtain ⟨h₁, h₂⟩ := ih h
        exact ⟨h₁, by simp only [List.length_cons]; omega⟩
    · rw [if_neg hc] at h
      rw [List.dropWhile_cons_of_neg hc]
      exact fracExp_of_parseNumber h

/-- A digit other than `0` is in the range the grammar's `int` starts a number with. -/
theorem nonzero_digit {c : Char} (hc : c.isDigit) (h0 : c ≠ '0') : '1' ≤ c ∧ c ≤ '9' := by
  have h0' : c.val.toBitVec.toNat ≠ 48 := fun h =>
    h0 (Char.ext (UInt32.eq_of_toBitVec_eq (BitVec.eq_of_toNat_eq h)))
  simp only [Char.isDigit, Bool.and_eq_true, decide_eq_true_eq, ge_iff_le, Char.le_def,
    UInt32.le_def, BitVec.le_def] at hc ⊢
  have h48 : (UInt32.toBitVec 48).toNat = 48 := rfl
  have h57 : (UInt32.toBitVec 57).toNat = 57 := rfl
  have h1 : ('1' : Char).val.toBitVec.toNat = 49 := rfl
  have h9 : ('9' : Char).val.toBitVec.toNat = 57 := rfl
  omega

/-- A number `parse_integer` reads (after its minus sign) is what the grammar's `int`, `frac`
and `exp` read. -/
theorem number_of_parseInteger {p : Bool} {cs rest : List Char} {n : ParserNumber}
    (h : parseInteger p cs = .ok (n, rest)) :
    ((int cs).bind frac).bind exp = some rest ∧ rest.length < cs.length := by
  unfold parseInteger at h
  split at h
  · cases h
  · rename_i cs
    have hnum : parseNumber p 0 cs = .ok (n, rest) := by
      split at h
      · split_ifs at h
        exact h
      · exact h
    obtain ⟨h₁, h₂⟩ := fracExp_of_parseNumber hnum
    exact ⟨h₁, Nat.lt_succ_of_le h₂⟩
  · rename_i c cs h0
    by_cases hc : c.isDigit
    swap
    · rw [if_neg hc] at h; cases h
    rw [if_pos hc] at h
    obtain ⟨h₁, h₂⟩ := fracExp_of_parseIntegerDigits cs h
    have hint : int (c :: cs) = some (cs.dropWhile Char.isDigit) := by
      have hr := nonzero_digit hc h0
      unfold JsonText.int
      split <;> simp_all
    rw [hint, Option.some_bind]
    exact ⟨h₁, Nat.lt_succ_of_le h₂⟩

/-! ## Arrays and objects -/

/-- `has_next_element` at the `]` that ends the array. -/
theorem hasNextElement_end {first : Bool} {cs r : List Char}
    (h : hasNextElement first cs = .ok (false, r)) : ws cs = ']' :: r := by
  unfold hasNextElement at h
  rw [parseWhitespace_eq_ws] at h
  generalize ws cs = w at h ⊢
  rcases w with _ | ⟨c, rest⟩
  · cases h
  dsimp only at h
  by_cases hc : c = ']'
  · rw [if_pos hc] at h; cases h; rw [hc]
  rw [if_neg hc] at h
  split_ifs at h
  · cases h
  split at h
  · cases h
  · split_ifs at h; cases h

/-- `has_next_element` at the first element: the element starts after the whitespace. -/
theorem hasNextElement_first {cs r : List Char} (h : hasNextElement true cs = .ok (true, r)) :
    ws cs = r ∧ ∀ r', r ≠ ']' :: r' := by
  unfold hasNextElement at h
  rw [parseWhitespace_eq_ws] at h
  generalize ws cs = w at h ⊢
  rcases w with _ | ⟨c, rest⟩
  · cases h
  dsimp only at h
  by_cases hc : c = ']'
  · rw [if_pos hc] at h; cases h
  rw [if_neg hc, if_pos rfl] at h
  cases h
  exact ⟨rfl, fun r' he => hc (List.cons.inj he).1⟩

/-- `has_next_element` after an element: a comma, then the next element. -/
theorem hasNextElement_next {cs r : List Char} (h : hasNextElement false cs = .ok (true, r)) :
    ∃ t, ws cs = ',' :: t ∧ ws t = r := by
  unfold hasNextElement at h
  rw [parseWhitespace_eq_ws] at h
  generalize ws cs = w at h ⊢
  rcases w with _ | ⟨c, rest⟩
  · cases h
  dsimp only at h
  by_cases hc : c = ']'
  · rw [if_pos hc] at h; cases h
  rw [if_neg hc, if_neg Bool.false_ne_true] at h
  by_cases hcomma : c = ','
  · rw [if_pos hcomma, parseWhitespace_eq_ws] at h
    refine ⟨rest, by rw [hcomma], ?_⟩
    rcases hwr : ws rest with _ | ⟨d, rest'⟩
    · rw [hwr] at h; cases h
    rw [hwr] at h
    dsimp only at h
    split_ifs at h
    cases h
    rfl
  · rw [if_neg hcomma] at h; cases h

/-- `has_next_key` at the `}` that ends the object. -/
theorem hasNextKey_end {first : Bool} {cs r : List Char} (h : hasNextKey first cs = .ok (false, r)) :
    ws cs = '}' :: r := by
  unfold hasNextKey at h
  rw [parseWhitespace_eq_ws] at h
  generalize ws cs = w at h ⊢
  rcases w with _ | ⟨c, rest⟩
  · cases h
  dsimp only at h
  by_cases hc : c = '}'
  · rw [if_pos hc] at h; cases h; rw [hc]
  rw [if_neg hc] at h
  split_ifs at h
  · cases h
  split at h
  · cases h
  · split_ifs at h; cases h

/-- `has_next_key` at the first key: its opening quote. -/
theorem hasNextKey_first {cs r : List Char} (h : hasNextKey true cs = .ok (true, r)) :
    ws cs = '"' :: r := by
  unfold hasNextKey at h
  rw [parseWhitespace_eq_ws] at h
  generalize ws cs = w at h ⊢
  rcases w with _ | ⟨c, rest⟩
  · cases h
  dsimp only at h
  by_cases hc : c = '}'
  · rw [if_pos hc] at h; cases h
  rw [if_neg hc, if_pos rfl] at h
  split_ifs at h with hq
  cases h
  rw [hq]

/-- `has_next_key` after an entry: a comma, then the opening quote of the next key. -/
theorem hasNextKey_next {cs r : List Char} (h : hasNextKey false cs = .ok (true, r)) :
    ∃ t, ws cs = ',' :: t ∧ ws t = '"' :: r := by
  unfold hasNextKey at h
  rw [parseWhitespace_eq_ws] at h
  generalize ws cs = w at h ⊢
  rcases w with _ | ⟨c, rest⟩
  · cases h
  dsimp only at h
  by_cases hc : c = '}'
  · rw [if_pos hc] at h; cases h
  rw [if_neg hc, if_neg Bool.false_ne_true] at h
  by_cases hcomma : c = ','
  · rw [if_pos hcomma, parseWhitespace_eq_ws] at h
    refine ⟨rest, by rw [hcomma], ?_⟩
    generalize ws rest = w at h ⊢
    rcases w with _ | ⟨d, rest'⟩
    · cases h
    dsimp only at h
    split_ifs at h with hq
    cases h
    rw [hq]
  · rw [if_neg hcomma] at h; cases h

section Loops

variable {n : Nat}

/-- The element loop after the first element reads what the grammar's `items` reads, when each
element is read as the grammar's `item` reads it. -/
theorem items_of_parseSeqElems {element : List Char → Except ErrorCode (Value × List Char)}
    {item : List Char → Option (List Char)}
    (helem : ∀ cs v rest, cs.length < n → element cs = .ok (v, rest) →
      rest.length < cs.length ∧ item cs = some (ws rest))
    (hitem : ∀ cs, item (ws cs) = item cs) :
    ∀ fuel cs vs rest, cs.length < n → parseSeqElems element fuel false cs = .ok (vs, rest) →
      rest.length < cs.length ∧ ∀ k, (ws cs).length < k → items item ']' k (ws cs) = some rest
  | 0, _, _, _, _, h => by cases h
  | fuel + 1, cs, vs, rest, hn, h => by
    rw [parseSeqElems] at h
    rcases hnext : hasNextElement false cs with _ | ⟨_ | _, input⟩ <;> rw [hnext] at h
    · cases h
    · -- the closing bracket
      cases h
      have hws := hasNextElement_end hnext
      refine ⟨length_lt_of_ws hws, fun k hk => ?_⟩
      rw [hws] at hk ⊢
      obtain ⟨k, rfl⟩ : ∃ k', k = k' + 1 := ⟨k - 1, by simp at hk; omega⟩
      simp [JsonText.items]
    · -- a comma and the next element
      obtain ⟨⟨v, r₁⟩, he, hl⟩ := bind_eq_ok.mp h
      obtain ⟨⟨vs', r₂⟩, hl, hv⟩ := map_eq_ok.mp hl
      cases hv
      obtain ⟨t, hws, rfl⟩ := hasNextElement_next hnext
      have ht := length_lt_of_ws hws
      have hwt := length_ws_le t
      obtain ⟨h₁, hitem₁⟩ := helem _ _ _ (by omega) he
      obtain ⟨h₂, hitems⟩ := items_of_parseSeqElems helem hitem fuel r₁ vs' rest (by omega) hl
      refine ⟨by omega, fun k hk => ?_⟩
      rw [hws] at hk ⊢
      obtain ⟨k, rfl⟩ : ∃ k', k = k' + 1 := ⟨k - 1, by simp at hk; omega⟩
      show (item t).bind (items item ']' k) = some rest
      rw [← hitem t, hitem₁, Option.some_bind]
      exact hitems k (by have := length_ws_le r₁; simp at hk; omega)

/-- An entry of an object, from its key's opening quote, is what the grammar's `member` reads. -/
theorem member_of_parseMapEntry {value : List Char → Except ErrorCode (Value × List Char)}
    {item : List Char → Option (List Char)}
    (hvalue : ∀ cs v rest, cs.length < n → value cs = .ok (v, rest) →
      rest.length < cs.length ∧ item cs = some (ws rest))
    {cs input rest : List Char} {e : String × Bool × Value} (hws : ws cs = '"' :: input)
    (hn : cs.length < n) (h : parseMapEntry false value input = .ok (e, rest)) :
    rest.length < input.length ∧ member item cs = some (ws rest) := by
  unfold parseMapEntry at h
  obtain ⟨⟨key, esc, r⟩, hs, h⟩ := bind_eq_ok.mp h
  obtain ⟨hstr, hr⟩ := stringChars_of_parseStrChars _ _ _ _ _ _ _ hs
  dsimp only at h
  rw [if_neg (by simp), parseWhitespace_eq_ws] at h
  split at h
  · rename_i r' hw
    obtain ⟨⟨v, r₂⟩, hv, he⟩ := map_eq_ok.mp h
    simp only [Prod.mk.injEq] at he
    obtain ⟨-, rfl⟩ := he
    have hr' := length_lt_of_ws hw
    have hin := length_lt_of_ws hws
    obtain ⟨h₁, h₂⟩ := hvalue r' v _ (by omega) hv
    refine ⟨by omega, ?_⟩
    unfold JsonText.member
    rw [hws]
    show (stringChars input).bind (fun rest => match ws rest with | ':' :: rest => item rest | _ => none) = _
    rw [hstr, Option.some_bind, hw]
    exact h₂
  · cases h
  · cases h

/-- The entry loop after the first entry reads what the grammar's `items` reads with `member`. -/
theorem items_of_parseMapEntries {value : List Char → Except ErrorCode (Value × List Char)}
    {item : List Char → Option (List Char)}
    (hvalue : ∀ cs v rest, cs.length < n → value cs = .ok (v, rest) →
      rest.length < cs.length ∧ item cs = some (ws rest)) :
    ∀ fuel cs es rest, cs.length < n → parseMapEntries false value fuel false cs = .ok (es, rest) →
      rest.length < cs.length ∧ ∀ k, (ws cs).length < k → items (member item) '}' k (ws cs) = some rest
  | 0, _, _, _, _, h => by cases h
  | fuel + 1, cs, es, rest, hn, h => by
    rw [parseMapEntries] at h
    rcases hnext : hasNextKey false cs with _ | ⟨_ | _, input⟩ <;> rw [hnext] at h
    · cases h
    · -- the closing brace
      cases h
      have hws := hasNextKey_end hnext
      refine ⟨length_lt_of_ws hws, fun k hk => ?_⟩
      rw [hws] at hk ⊢
      obtain ⟨k, rfl⟩ : ∃ k', k = k' + 1 := ⟨k - 1, by simp at hk; omega⟩
      simp [JsonText.items]
    · -- a comma and the next entry
      obtain ⟨⟨e, r₁⟩, he, hl⟩ := bind_eq_ok.mp h
      obtain ⟨⟨es', r₂⟩, hl, hv⟩ := map_eq_ok.mp hl
      cases hv
      obtain ⟨t, hws, hwt⟩ := hasNextKey_next hnext
      have ht := length_lt_of_ws hws
      have hin := length_lt_of_ws hwt
      obtain ⟨h₁, hmember⟩ := member_of_parseMapEntry hvalue hwt (by omega) he
      obtain ⟨h₂, hitems⟩ := items_of_parseMapEntries hvalue fuel r₁ es' rest (by omega) hl
      refine ⟨by omega, fun k hk => ?_⟩
      rw [hws] at hk ⊢
      obtain ⟨k, rfl⟩ : ∃ k', k = k' + 1 := ⟨k - 1, by simp at hk; omega⟩
      show (member item t).bind (items (member item) '}' k) = some rest
      rw [hmember, Option.some_bind]
      exact hitems k (by have := length_ws_le r₁; simp at hk; omega)

end Loops

/-! ## Values -/

theorem parseIdent_eq_ok : ∀ {xs r rest : List Char}, parseIdent xs r = .ok rest → r = xs ++ rest
  | [], _, _, h => by cases h; rfl
  | _ :: _, [], _, h => by cases h
  | x :: xs, d :: r, rest, h => by
    rw [parseIdent] at h
    split_ifs at h with hx
    rw [hx, parseIdent_eq_ok h]
    rfl

theorem eq_digit_of_isDigit {c : Char} (hc : c.isDigit) :
    c = '0' ∨ c = '1' ∨ c = '2' ∨ c = '3' ∨ c = '4' ∨ c = '5' ∨ c = '6' ∨ c = '7' ∨ c = '8' ∨
      c = '9' := by
  have h : 48 ≤ c.toNat ∧ c.toNat ≤ 57 := by
    simp only [Char.isDigit, Bool.and_eq_true, decide_eq_true_eq, ge_iff_le, UInt32.le_def,
      BitVec.le_def] at hc
    exact hc
  rw [← Char.ofNat_toNat c]
  generalize c.toNat = k at h
  obtain ⟨h₁, h₂⟩ := h
  interval_cases k <;> decide

theorem value_of_ws_digit {f : Nat} {cs r : List Char} {c : Char} (hw : ws cs = c :: r)
    (hc : c.isDigit) : JsonText.value (f + 1) cs = (((int (c :: r)).bind frac).bind exp).map ws := by
  rw [JsonText.value.eq_2, hw]
  rcases eq_digit_of_isDigit hc with rfl | rfl | rfl | rfl | rfl | rfl | rfl | rfl | rfl | rfl <;> rfl

/-- A literal `null`, `true` or `false` is a value for the grammar. -/
theorem value_of_parseIdent {cs r rest xs : List Char} {c : Char} (hw : ws cs = c :: r)
    (hid : parseIdent xs r = .ok rest)
    (hlit : c :: xs = ['n', 'u', 'l', 'l'] ∨ c :: xs = ['t', 'r', 'u', 'e'] ∨
      c :: xs = ['f', 'a', 'l', 's', 'e']) :
    rest.length ≤ r.length ∧ ∀ f, r.length < f → JsonText.value (f + 1) cs = some (ws rest) := by
  obtain rfl := parseIdent_eq_ok hid
  refine ⟨by simp, fun f _ => ?_⟩
  rw [JsonText.value.eq_2, hw]
  rcases hlit with h | h | h <;> obtain ⟨rfl, rfl⟩ := List.cons.inj h <;> rfl

/-- `element` reads only values of the grammar: what it reads from a prefix of the input, the
grammar reads as a value too, with the whitespace after it, whatever its fuel beyond the length
of the input. -/
def ReadsJsonValues (element : List Char → Except ErrorCode (Value × List Char)) : Prop :=
  ∀ cs v rest, element cs = .ok (v, rest) →
    rest.length < cs.length ∧ ∀ f, cs.length < f → JsonText.value f cs = some (ws rest)

section Containers

variable {element : List Char → Except ErrorCode (Value × List Char)} {cs r rest : List Char}

theorem ReadsJsonValues.bounded (he : ReadsJsonValues element) (f : Nat) :
    ∀ cs v rest, cs.length < f → element cs = .ok (v, rest) →
      rest.length < cs.length ∧ JsonText.value f cs = some (ws rest) :=
  fun cs v rest hlt h => ⟨(he cs v rest h).1, (he cs v rest h).2 f hlt⟩

/-- An array whose elements `element` reads is an array for the grammar. -/
theorem value_of_parseSeqElems (he : ReadsJsonValues element) (hw : ws cs = '[' :: r)
    {vs : List Value} (h : parseSeqElems element r.length true r = .ok (vs, rest)) :
    rest.length < r.length ∧ ∀ f, r.length < f → JsonText.value (f + 1) cs = some (ws rest) := by
  generalize hk : r.length = k at h
  rcases k with _ | k
  · cases h
  rw [parseSeqElems] at h
  rcases hnext : hasNextElement true r with _ | ⟨_ | _, input⟩ <;> rw [hnext] at h
  · cases h
  · -- an empty array
    cases h
    have hws := hasNextElement_end hnext
    refine ⟨by have := length_lt_of_ws hws; omega, fun f _ => ?_⟩
    rw [JsonText.value.eq_2, hw]
    show (match ws r with | ']' :: r => some r | _ => _).map ws = _
    rw [hws]
    rfl
  · -- the first element, then the loop
    obtain ⟨⟨v, r₁⟩, h₁, hl⟩ := bind_eq_ok.mp h
    obtain ⟨⟨vs', r₂⟩, hl, hv⟩ := map_eq_ok.mp hl
    cases hv
    obtain ⟨hws, hne⟩ := hasNextElement_first hnext
    subst hws
    obtain ⟨hlen₁, hvalue₁⟩ := he _ _ _ h₁
    have hwr := length_ws_le r
    refine ⟨?_, fun f hf => ?_⟩
    · obtain ⟨hlen₂, -⟩ := items_of_parseSeqElems (he.bounded r.length) (value_ws r.length) k r₁
        vs' rest (by omega) hl
      omega
    obtain ⟨-, hitems⟩ := items_of_parseSeqElems (he.bounded f) (value_ws f) k r₁ vs' rest
      (by omega) hl
    rw [JsonText.value.eq_2, hw]
    show (match ws r with | ']' :: r => some r | _ => _).map ws = _
    split
    · rename_i r' heq; exact absurd heq (hne r')
    · rw [← value_ws f r, hvalue₁ f (by omega), Option.some_bind,
        hitems r.length (by have := length_ws_le r₁; omega)]
      rfl

/-- An object whose values `element` reads is an object for the grammar. -/
theorem value_of_parseMapEntries (he : ReadsJsonValues element) (hw : ws cs = '{' :: r)
    {es : List (String × Bool × Value)} (h : parseMapEntries false element r.length true r = .ok (es, rest)) :
    rest.length < r.length ∧ ∀ f, r.length < f → JsonText.value (f + 1) cs = some (ws rest) := by
  generalize hk : r.length = k at h
  rcases k with _ | k
  · cases h
  rw [parseMapEntries] at h
  rcases hnext : hasNextKey true r with _ | ⟨_ | _, input⟩ <;> rw [hnext] at h
  · cases h
  · -- an empty object
    cases h
    have hws := hasNextKey_end hnext
    refine ⟨by have := length_lt_of_ws hws; omega, fun f _ => ?_⟩
    rw [JsonText.value.eq_2, hw]
    show (match ws r with | '}' :: r => some r | _ => _).map ws = _
    rw [hws]
    rfl
  · -- the first entry, then the loop
    obtain ⟨⟨e, r₁⟩, h₁, hl⟩ := bind_eq_ok.mp h
    obtain ⟨⟨es', r₂⟩, hl, hv⟩ := map_eq_ok.mp hl
    cases hv
    have hws := hasNextKey_first hnext
    have hin := length_lt_of_ws hws
    refine ⟨?_, fun f hf => ?_⟩
    · obtain ⟨hlen₁, -⟩ := member_of_parseMapEntry (he.bounded (r.length + 1)) hws (by omega) h₁
      obtain ⟨hlen₂, -⟩ := items_of_parseMapEntries (he.bounded (r.length + 1)) k r₁ es' rest
        (by omega) hl
      omega
    obtain ⟨hlen₁, hmember⟩ := member_of_parseMapEntry (he.bounded f) hws (by omega) h₁
    obtain ⟨-, hitems⟩ := items_of_parseMapEntries (he.bounded f) k r₁ es' rest (by omega) hl
    rw [JsonText.value.eq_2, hw]
    show (match ws r with | '}' :: r => some r | _ => _).map ws = _
    rw [hws]
    show ((member (JsonText.value f) r).bind (items (member (JsonText.value f)) '}' r.length)).map ws = _
    rw [hmember, Option.some_bind, hitems r.length (by have := length_ws_le r₁; omega)]
    rfl

end Containers

/-- `check_recursion!`: a container is read only with budget left, and its elements with less. -/
theorem exists_depth_of_containerBranch {α : Type} {read : Nat → Except ErrorCode α} {d : Nat} {v : α}
    (h : (match d with
      | 0 => Except.error ErrorCode.recursionLimitExceeded
      | depth + 1 => if depth = 0 then Except.error ErrorCode.recursionLimitExceeded else read depth) =
        Except.ok v) :
    ∃ depth < d, read depth = .ok v := by
  rcases d with _ | depth
  · cases h
  rcases ite_eq_iff.mp h with ⟨-, h⟩ | ⟨-, h⟩
  · cases h
  · exact ⟨depth, Nat.lt_succ_self depth, h⟩

/-- **serde_json reads only JSON values.** Whatever `parseValue` reads from a prefix of the
input, at any recursion budget, the grammar reads as a value. -/
theorem readsJsonValues_parseValue (d : Nat) : ReadsJsonValues (parseValue d) := by
  induction d using Nat.strong_induction_on with
  | _ d ih =>
  intro cs v rest h
  rw [parseValue, parseWhitespace_eq_ws] at h
  generalize hw : ws cs = w at h
  rcases w with _ | ⟨c, r⟩
  · cases h
  have hr := length_lt_of_ws hw
  suffices key : rest.length ≤ r.length ∧ ∀ f, r.length < f →
      JsonText.value (f + 1) cs = some (ws rest) by
    refine ⟨by omega, fun f hf => ?_⟩
    obtain ⟨f, rfl⟩ : ∃ f', f = f' + 1 := ⟨f - 1, by omega⟩
    exact key.2 f (by omega)
  dsimp only at h
  -- the literals `null`, `true` and `false`
  rcases ite_eq_iff.mp h with ⟨rfl, h⟩ | ⟨-, h⟩
  · obtain ⟨r', hid, he⟩ := map_eq_ok.mp h
    cases he
    exact value_of_parseIdent hw hid (.inl rfl)
  rcases ite_eq_iff.mp h with ⟨rfl, h⟩ | ⟨-, h⟩
  · obtain ⟨r', hid, he⟩ := map_eq_ok.mp h
    cases he
    exact value_of_parseIdent hw hid (.inr (.inl rfl))
  rcases ite_eq_iff.mp h with ⟨rfl, h⟩ | ⟨-, h⟩
  · obtain ⟨r', hid, he⟩ := map_eq_ok.mp h
    cases he
    exact value_of_parseIdent hw hid (.inr (.inr rfl))
  -- numbers, negative or not
  rcases ite_eq_iff.mp h with ⟨rfl, h⟩ | ⟨-, h⟩
  · obtain ⟨⟨num, r'⟩, hnum, he⟩ := map_eq_ok.mp h
    cases he
    obtain ⟨hg, hl⟩ := number_of_parseInteger hnum
    refine ⟨hl.le, fun f _ => ?_⟩
    rw [JsonText.value.eq_2, hw]
    show (((int r).bind frac).bind exp).map ws = _
    rw [hg]
    rfl
  rcases ite_eq_iff.mp h with ⟨hd, h⟩ | ⟨-, h⟩
  · obtain ⟨⟨num, r'⟩, hnum, he⟩ := map_eq_ok.mp h
    cases he
    obtain ⟨hg, hl⟩ := number_of_parseInteger hnum
    refine ⟨Nat.le_of_lt_succ hl, fun f _ => ?_⟩
    rw [value_of_ws_digit hw hd, hg]
    rfl
  -- strings
  rcases ite_eq_iff.mp h with ⟨rfl, h⟩ | ⟨-, h⟩
  · obtain ⟨⟨str, esc, r'⟩, hs, he⟩ := map_eq_ok.mp h
    cases he
    obtain ⟨hg, hl⟩ := stringChars_of_parseStrChars _ _ _ _ _ _ _ hs
    refine ⟨hl.le, fun f _ => ?_⟩
    rw [JsonText.value.eq_2, hw]
    show (stringChars r).map ws = _
    rw [hg]
    rfl
  -- arrays and objects, whose elements are read with less budget
  rcases ite_eq_iff.mp h with ⟨rfl, h⟩ | ⟨-, h⟩
  · obtain ⟨depth, hdepth, h⟩ := exists_depth_of_containerBranch h
    obtain ⟨⟨vs, r'⟩, hseq, he⟩ := map_eq_ok.mp h
    cases he
    obtain ⟨hl, hg⟩ := value_of_parseSeqElems (ih depth hdepth) hw hseq
    exact ⟨hl.le, hg⟩
  rcases ite_eq_iff.mp h with ⟨rfl, h⟩ | ⟨-, h⟩
  · obtain ⟨depth, hdepth, h⟩ := exists_depth_of_containerBranch h
    obtain ⟨⟨es, r'⟩, hentries, he⟩ := map_eq_ok.mp h
    cases he
    obtain ⟨hl, hg⟩ := value_of_parseMapEntries (ih depth hdepth) hw hentries
    exact ⟨hl.le, hg⟩
  cases h

/-! ## Texts -/

/-- **`from_str::<Value>` accepts only JSON texts**: the grammar reads the whole document as one
value between whitespace. -/
theorem isJsonText_of_fromStrValue {s : String} {v : Value} (h : fromStrValue s = .ok v) :
    JsonText.isJsonText s = true := by
  obtain ⟨⟨v', rest⟩, hv, hend⟩ := bind_eq_ok.mp h
  obtain ⟨hrest, -⟩ := parseEnd_eq_ok.mp hend
  obtain ⟨cs⟩ := s
  rw [parseWhitespace_eq_ws] at hrest
  rw [JsonText.isJsonText, String.length_mk,
    (readsJsonValues_parseValue _ _ _ _ hv).2 _ (Nat.lt_succ_self _), hrest]
  rfl

end QoveryEngine.Json
