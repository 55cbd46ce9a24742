import Mathlib.Data.List.Basic
import Mathlib.Data.Nat.Digits
import Mathlib.Tactic.IntervalCases

/-!
The functions of Go's standard library that wc3ts calls on text: `strings.ToLower`,
`strings.TrimSpace`, `strings.CutPrefix`, `strconv.ParseUint` in base 10, and the decimal
printing of `fmt`'s `%d` and `netip.Addr.String`, which is `Nat.repr` here. A Go string is a
Lean string; each function works on its characters.

The lemmas say what the decimal text of a number is made of (ASCII digits, at least one) and
that its value reads it back (`decimalValue_toDigits`), so that printing is injective; and what
`ParseUint` accepts (`strconvParseUint_eq_ok_iff`).
-/

namespace Wc3ts

/-! ### Case and space -/

/-- `unicode.ToLower`, on the runes whose lower case is an ASCII letter: `A` to `Z`, `İ`
(U+0130) and the Kelvin sign (U+212A). Every other rune is kept. wc3ts compares lowered text
only with ASCII literals, and `unicode.ToLower` maps no other rune into ASCII, so no comparison
it makes depends on the runes left as they are. -/
def unicodeToLower (c : Char) : Char :=
  if c.toNat = 0x130 then 'i'
  else if c.toNat = 0x212A then 'k'
  else c.toLower

/-- `strings.ToLower`: every rune lowered. -/
def stringsToLower (s : String) : String :=
  ⟨s.data.map unicodeToLower⟩

/-- `unicode.IsSpace`: in Latin-1, tab, newline, vertical tab, form feed, carriage return,
space, U+0085 and U+00A0; above it, the `White_Space` runes. -/
def unicodeIsSpace (c : Char) : Bool :=
  if c.toNat ≤ 0xFF then c.toNat ∈ [0x09, 0x0A, 0x0B, 0x0C, 0x0D, 0x20, 0x85, 0xA0]
  else c.toNat = 0x1680 || (0x2000 ≤ c.toNat && c.toNat ≤ 0x200A) ||
    c.toNat ∈ [0x2028, 0x2029, 0x202F, 0x205F, 0x3000]

/-- `strings.TrimSpace`: the runes `unicode.IsSpace` accepts cut from both ends. -/
def stringsTrimSpace (s : String) : String :=
  ⟨((s.data.dropWhile unicodeIsSpace).reverse.dropWhile unicodeIsSpace).reverse⟩

/-- `strings.CutPrefix`: the text after the prefix and `true`, or the text and `false`. -/
def stringsCutPrefix (s pre : String) : String × Bool :=
  if pre.data.isPrefixOf s.data then (⟨s.data.drop pre.length⟩, true) else (s, false)

theorem isDigit_toNat {c : Char} (digit : c.isDigit = true) :
    48 ≤ c.toNat ∧ c.toNat ≤ 57 := by
  simp only [Char.isDigit, Bool.and_eq_true, decide_eq_true_eq] at digit
  exact ⟨digit.1, digit.2⟩

theorem unicodeIsSpace_of_isDigit {c : Char} (digit : c.isDigit = true) :
    unicodeIsSpace c = false := by
  have bounds := isDigit_toNat digit
  unfold unicodeIsSpace
  rw [if_pos (by omega)]
  simp only [List.mem_cons, List.mem_singleton, List.not_mem_nil, or_false,
    decide_eq_false_iff_not]
  omega

/-- Text none of whose runes is a space is its own `TrimSpace`. -/
theorem stringsTrimSpace_of_no_space (s : String)
    (noSpace : ∀ c ∈ s.data, unicodeIsSpace c = false) : stringsTrimSpace s = s := by
  have keep : ∀ l : List Char, (∀ c ∈ l, unicodeIsSpace c = false) →
      l.dropWhile unicodeIsSpace = l := by
    rintro (_ | ⟨c, rest⟩) noSpace
    · rfl
    · simp [List.dropWhile, noSpace c (List.mem_cons_self _ _)]
  obtain ⟨data⟩ := s
  simp only [stringsTrimSpace, keep data noSpace,
    keep data.reverse fun c member => noSpace c (List.mem_reverse.mp member), List.reverse_reverse]

/-! ### Decimal text -/

/-- One step of reading a decimal text, most significant digit first. -/
def decimalStep (n : Nat) (c : Char) : Nat :=
  n * 10 + (c.toNat - '0'.toNat)

/-- The value of a decimal text. -/
def decimalValue (digits : List Char) : Nat :=
  digits.foldl decimalStep 0

theorem decimalStep_digitChar {d : Nat} (digit : d < 10) (n : Nat) :
    decimalStep n (Nat.digitChar d) = n * 10 + d := by
  interval_cases d <;> rfl

theorem isDigit_digitChar {d : Nat} (digit : d < 10) : (Nat.digitChar d).isDigit = true := by
  interval_cases d <;> rfl

/-- Reading never lowers the value read so far. -/
theorem le_foldl_decimalStep (digits : List Char) (n : Nat) :
    n ≤ digits.foldl decimalStep n := by
  induction digits generalizing n with
  | nil => exact le_refl n
  | cons c rest inductionHypothesis =>
    exact (Nat.le_mul_of_pos_right n (by norm_num)).trans
      ((Nat.le_add_right _ _).trans (inductionHypothesis _))

/-- The digits `toDigitsCore` puts in front of `ds`, with enough fuel, read as the number it
was given. -/
theorem foldl_toDigitsCore (fuel n : Nat) (ds : List Char) (enough : n < fuel) :
    (Nat.toDigitsCore 10 fuel n ds).foldl decimalStep 0 = ds.foldl decimalStep n := by
  induction fuel generalizing n ds with
  | zero => omega
  | succ fuel inductionHypothesis =>
    have last : decimalStep 0 (Nat.digitChar (n % 10)) = n % 10 := by
      rw [decimalStep_digitChar (Nat.mod_lt _ (by norm_num)), Nat.zero_mul, Nat.zero_add]
    rw [Nat.toDigitsCore]
    split
    · rw [List.foldl_cons, last, Nat.mod_eq_of_lt (by omega)]
    · rw [inductionHypothesis _ _ (by omega), List.foldl_cons,
        decimalStep_digitChar (Nat.mod_lt _ (by norm_num)), Nat.div_add_mod']

theorem mem_toDigitsCore_isDigit (fuel n : Nat) (ds : List Char)
    (digits : ∀ c ∈ ds, c.isDigit = true) :
    ∀ c ∈ Nat.toDigitsCore 10 fuel n ds, c.isDigit = true := by
  induction fuel generalizing n ds with
  | zero => exact digits
  | succ fuel inductionHypothesis =>
    have allDigits : ∀ c ∈ Nat.digitChar (n % 10) :: ds, c.isDigit = true := by
      simpa [isDigit_digitChar (Nat.mod_lt n (by norm_num : 10 > 0))] using digits
    rw [Nat.toDigitsCore]
    split
    · exact allDigits
    · exact inductionHypothesis _ _ allDigits

theorem toDigitsCore_ne_nil (fuel n : Nat) (ds : List Char) (nonempty : ds ≠ []) :
    Nat.toDigitsCore 10 fuel n ds ≠ [] := by
  induction fuel generalizing n ds with
  | zero => exact nonempty
  | succ fuel inductionHypothesis =>
    rw [Nat.toDigitsCore]
    split
    · exact List.cons_ne_nil _ _
    · exact inductionHypothesis _ _ (List.cons_ne_nil _ _)

/-- The decimal text of a number reads back as the number. -/
@[simp] theorem decimalValue_toDigits (n : Nat) : decimalValue (Nat.toDigits 10 n) = n :=
  foldl_toDigitsCore (n + 1) n [] (Nat.lt_succ_self n)

/-- The decimal text of a number is made of ASCII digits. -/
theorem isDigit_of_mem_toDigits {n : Nat} {c : Char} (member : c ∈ Nat.toDigits 10 n) :
    c.isDigit = true :=
  mem_toDigitsCore_isDigit (n + 1) n [] (by simp) c member

/-- The decimal text of a number has a first digit. -/
theorem toDigits_ne_nil (n : Nat) : Nat.toDigits 10 n ≠ [] := by
  unfold Nat.toDigits
  rw [Nat.toDigitsCore]
  split
  · exact List.cons_ne_nil _ _
  · exact toDigitsCore_ne_nil _ _ _ (List.cons_ne_nil _ _)

@[simp] theorem repr_data (n : Nat) : n.repr.data = Nat.toDigits 10 n := rfl

/-- A separator that occurs in neither of two texts splits their joins the same way. -/
theorem append_cons_inj_of_not_mem {sep : Char} :
    ∀ {a b x y : List Char}, sep ∉ a → sep ∉ b → a ++ sep :: x = b ++ sep :: y →
      a = b ∧ x = y
  | [], [], _, _, _, _, joined => ⟨rfl, (List.cons.inj joined).2⟩
  | [], c :: _, _, _, _, notInB, joined =>
    absurd (List.mem_cons.mpr (.inl (List.cons.inj joined).1)) notInB
  | c :: _, [], _, _, notInA, _, joined =>
    absurd (List.mem_cons.mpr (.inl (List.cons.inj joined).1.symm)) notInA
  | c :: a, d :: b, _, _, notInA, notInB, joined => by
    obtain ⟨rfl, rest⟩ := List.cons.inj joined
    obtain ⟨rfl, rfl⟩ := append_cons_inj_of_not_mem (List.not_mem_of_not_mem_cons notInA)
      (List.not_mem_of_not_mem_cons notInB) rest
    exact ⟨rfl, rfl⟩

/-! ### `strconv.ParseUint` in base 10 -/

/-- `strconv.ErrSyntax` and `strconv.ErrRange`. -/
inductive NumErrorKind where
  | errSyntax
  | errRange
  deriving DecidableEq, Repr

/-- `strconv.NumError`: the function, the text it was given, and the error. Its message is
`strconv.ParseUint: parsing %q: invalid syntax`, or `value out of range`. -/
structure NumError where
  func : String
  num : String
  err : NumErrorKind
  deriving DecidableEq, Repr

/-- `maxUint64`. -/
def maxUint64 : Nat := 2 ^ 64 - 1

/-- The loop of `ParseUint` over the text's bytes in base 10: a non-digit is a syntax error, a
value past `maxVal` a range error, checked before (`cutoff`) and after each digit. A byte of a
multi-byte rune is no digit, so the loop runs over runes here. -/
def parseUintLoop (s : String) (maxVal : Nat) : Nat → List Char → Except NumError Nat
  | n, [] => .ok n
  | n, c :: rest =>
    if c.isDigit then
      if n ≥ maxUint64 / 10 + 1 then .error ⟨"ParseUint", s, .errRange⟩
      else
        let n1 := decimalStep n c
        if n1 > maxVal then .error ⟨"ParseUint", s, .errRange⟩
        else parseUintLoop s maxVal n1 rest
    else .error ⟨"ParseUint", s, .errSyntax⟩

/-- `strconv.ParseUint(s, 10, bitSize)`, for the bit sizes 1 to 64: the empty text is a syntax
error, then the loop runs with `maxVal` `1<<bitSize - 1`. -/
def strconvParseUint (s : String) (bitSize : Nat) : Except NumError Nat :=
  if s.data = [] then .error ⟨"ParseUint", s, .errSyntax⟩
  else parseUintLoop s (2 ^ bitSize - 1) 0 s.data

/-- Every error the loop returns names the text it was given and the function. -/
theorem parseUintLoop_error (s : String) (maxVal n : Nat) (digits : List Char) {e : NumError}
    (failed : parseUintLoop s maxVal n digits = .error e) : e.func = "ParseUint" ∧ e.num = s := by
  induction digits generalizing n with
  | nil => cases failed
  | cons c rest inductionHypothesis =>
    simp only [parseUintLoop] at failed
    split_ifs at failed
    all_goals first | exact inductionHypothesis _ failed | (cases failed; exact ⟨rfl, rfl⟩)

theorem strconvParseUint_error (s : String) (bitSize : Nat) {e : NumError}
    (failed : strconvParseUint s bitSize = .error e) : e.func = "ParseUint" ∧ e.num = s := by
  unfold strconvParseUint at failed
  split at failed
  · cases failed
    exact ⟨rfl, rfl⟩
  · exact parseUintLoop_error s _ 0 s.data failed

/-- The loop returns exactly on digits whose value stays within `maxVal`, with that value. -/
theorem parseUintLoop_eq_ok_iff (s : String) {maxVal : Nat} (fits : maxVal ≤ maxUint64)
    (digits : List Char) {n v : Nat} (start : n ≤ maxVal) :
    parseUintLoop s maxVal n digits = .ok v ↔
      (∀ c ∈ digits, c.isDigit = true) ∧ digits.foldl decimalStep n ≤ maxVal ∧
        v = digits.foldl decimalStep n := by
  induction digits generalizing n with
  | nil =>
    simp only [parseUintLoop, Except.ok.injEq, List.not_mem_nil, false_implies, implies_true,
      List.foldl_nil, start, true_and]
    exact eq_comm
  | cons c rest inductionHypothesis =>
    simp only [parseUintLoop, List.mem_cons, forall_eq_or_imp, List.foldl_cons]
    by_cases digit : c.isDigit = true
    · have belowCutoff : ¬ n ≥ maxUint64 / 10 + 1 ↔ n * 10 ≤ maxUint64 := by omega
      by_cases small : decimalStep n c ≤ maxVal
      · have cut : ¬ n ≥ maxUint64 / 10 + 1 :=
          belowCutoff.mpr ((Nat.le_add_right _ _).trans (small.trans fits))
        rw [if_pos digit, if_neg cut, if_neg (Nat.not_lt.mpr small),
          inductionHypothesis small]
        simp [digit]
      · have beyond : ¬ rest.foldl decimalStep (decimalStep n c) ≤ maxVal := fun within =>
          small ((le_foldl_decimalStep rest _).trans within)
        rw [if_pos digit]
        split_ifs with _ exceeds
        · simp [beyond]
        · simp [beyond]
        · exact absurd (Nat.lt_of_not_le small) exceeds
    · simp [digit]

/-- `ParseUint` in base 10 returns exactly on a non-empty text of ASCII digits whose value
fits in `bitSize` bits, with that value. -/
theorem strconvParseUint_eq_ok_iff (s : String) {bitSize : Nat} (fits : bitSize ≤ 64) (v : Nat) :
    strconvParseUint s bitSize = .ok v ↔
      s.data ≠ [] ∧ (∀ c ∈ s.data, c.isDigit = true) ∧
        decimalValue s.data < 2 ^ bitSize ∧ v = decimalValue s.data := by
  have maxFits : 2 ^ bitSize - 1 ≤ maxUint64 :=
    Nat.sub_le_sub_right (Nat.pow_le_pow_right (by norm_num) fits) 1
  have positive : 0 < 2 ^ bitSize := Nat.two_pow_pos bitSize
  unfold strconvParseUint
  split
  · rename_i empty
    simp [empty]
  · rename_i nonempty
    have bound : ∀ m, m ≤ 2 ^ bitSize - 1 ↔ m < 2 ^ bitSize := fun m => by omega
    rw [parseUintLoop_eq_ok_iff s maxFits _ (Nat.zero_le _)]
    simp only [decimalValue, bound, nonempty, ne_eq, not_false_eq_true, true_and]

end Wc3ts
