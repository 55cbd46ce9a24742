import Wc3ts.Go.Strings

/-!
`config/config.go`: the game version as text. `ParseVersion` reads the version the command
line gives: `TrimSpace`, then one leading `1.` cut off, then `strconv.ParseUint` in base 10
with 32 bits. `FormatVersion` prints a version as `1.` and its decimal text.

`ParseVersion` accepts exactly the texts whose trimmed form, less one leading `1.`, is a
non-empty run of ASCII digits of value below 2^32, and returns that value; so it reads back
what `FormatVersion` and `%d` print (`parseVersion_accepts`). Each error it returns names the
text `ParseUint` was given (`parseVersion_error`).
-/

namespace Wc3ts

/-- `FormatVersion`. -/
def formatVersion (v : UInt32) : String :=
  "1." ++ v.toNat.repr

/-- The error of `ParseVersion`, printed `invalid version %q: %w`: the text it gave
`ParseUint`, and the error `ParseUint` returned. -/
structure VersionError where
  input : String
  cause : NumError
  deriving DecidableEq, Repr

/-- `ParseVersion`. -/
def parseVersion (s : String) : Except VersionError UInt32 :=
  let s := stringsTrimSpace s
  let cut := stringsCutPrefix s "1."
  let s := if cut.2 then cut.1 else s
  match strconvParseUint s 32 with
  | .ok v => .ok (UInt32.ofNat v)
  | .error err => .error ⟨s, err⟩

/-! ### The grammar, as the documentation states it -/

/-- The trimmed text, less one leading `1.` when it has one. -/
def versionDigits (s : String) : List Char :=
  let trimmed := (stringsTrimSpace s).data
  if trimmed.take 2 = ['1', '.'] then trimmed.drop 2 else trimmed

/-- A version text: what is left is a non-empty run of ASCII digits of value below 2^32. -/
def VersionText (s : String) : Prop :=
  versionDigits s ≠ [] ∧ (∀ c ∈ versionDigits s, c.isDigit = true) ∧
    decimalValue (versionDigits s) < 2 ^ 32

/-! ### What `ParseVersion` accepts -/

/-- The text `ParseVersion` hands to `ParseUint` is the grammar's. -/
theorem parseVersion_input_data (s : String) :
    (if (stringsCutPrefix (stringsTrimSpace s) "1.").2
      then (stringsCutPrefix (stringsTrimSpace s) "1.").1 else stringsTrimSpace s).data =
      versionDigits s := by
  have prefixed : ∀ l : List Char, ['1', '.'].isPrefixOf l = true ↔ l.take 2 = ['1', '.'] :=
    fun l => by rw [List.isPrefixOf_iff_prefix, List.prefix_iff_eq_take, eq_comm]; rfl
  unfold stringsCutPrefix versionDigits
  by_cases cut : ['1', '.'].isPrefixOf (stringsTrimSpace s).data = true
  · rw [if_pos ((prefixed _).mp cut)]
    exact if_pos cut ▸ rfl
  · rw [if_neg fun taken => cut ((prefixed _).mpr taken)]
    exact if_neg cut ▸ rfl

/-- `ParseVersion` returns exactly on a version text, with the value of its digits. -/
theorem parseVersion_eq_ok_iff (s : String) (v : UInt32) :
    parseVersion s = .ok v ↔ VersionText s ∧ v.toNat = decimalValue (versionDigits s) := by
  have input := parseVersion_input_data s
  unfold parseVersion
  simp only
  split
  · rename_i n parsed
    obtain ⟨nonempty, digits, small, rfl⟩ :=
      (strconvParseUint_eq_ok_iff _ (by norm_num) n).mp parsed
    rw [input] at nonempty digits small ⊢
    have toNat : (UInt32.ofNat (decimalValue (versionDigits s))).toNat =
        decimalValue (versionDigits s) := UInt32.toNat_ofNat_of_lt small
    constructor
    · intro equal
      cases equal
      exact ⟨⟨nonempty, digits, small⟩, toNat⟩
    · rintro ⟨-, value⟩
      rw [← UInt32.toNat.inj (value.trans toNat.symm)]
  · rename_i e failed
    refine ⟨nofun, fun ⟨⟨nonempty, digits, small⟩, _⟩ => ?_⟩
    rw [← input] at nonempty digits small
    have parses := (strconvParseUint_eq_ok_iff _ (by norm_num) _).mpr
      ⟨nonempty, digits, small, rfl⟩
    rw [failed] at parses
    cases parses

/-- Only one `1.` is cut, and only in front. -/
example : (parseVersion " 1.26\n").toOption = some 26 := by decide
example : (parseVersion "1.1").toOption = some 1 := by decide
example : (parseVersion "01.26").toOption = none := by decide
example : (parseVersion "1.1.26").toOption = none := by decide

/-- Every error of `ParseVersion` names the text it gave `ParseUint`, the grammar's, and
`ParseUint`'s error names the same text. -/
theorem parseVersion_error (s : String) {e : VersionError} (failed : parseVersion s = .error e) :
    e.input.data = versionDigits s ∧ e.cause.func = "ParseUint" ∧ e.cause.num = e.input := by
  unfold parseVersion at failed
  simp only at failed
  split at failed
  · cases failed
  · rename_i cause parsed
    cases failed
    exact ⟨parseVersion_input_data s, strconvParseUint_error _ _ parsed⟩

/-- The decimal text of a number is its own version text: no space, no `1.` in front. -/
theorem versionDigits_repr (n : Nat) : versionDigits n.repr = Nat.toDigits 10 n := by
  have digits : ∀ c ∈ n.repr.data, c.isDigit = true := fun c member =>
    isDigit_of_mem_toDigits member
  have noPrefix : n.repr.data.take 2 ≠ ['1', '.'] := fun taken => by
    have dot : '.' ∈ n.repr.data.take 2 := by rw [taken]; simp
    exact absurd (digits '.' (List.mem_of_mem_take dot)) (by decide)
  unfold versionDigits
  rw [stringsTrimSpace_of_no_space _ fun c member => unicodeIsSpace_of_isDigit (digits c member),
    if_neg noPrefix]
  rfl

/-- `FormatVersion`'s text is a version text whose digits are the version's. -/
theorem versionDigits_formatVersion (v : UInt32) :
    versionDigits (formatVersion v) = Nat.toDigits 10 v.toNat := by
  have noSpace : ∀ c ∈ (formatVersion v).data, unicodeIsSpace c = false := by
    intro c member
    simp only [formatVersion, String.data_append, repr_data, List.mem_append] at member
    rcases member with literal | digit
    · revert c
      decide
    · exact unicodeIsSpace_of_isDigit (isDigit_of_mem_toDigits digit)
  unfold versionDigits
  rw [stringsTrimSpace_of_no_space _ noSpace]
  rfl

/-- A version's decimal text, bare or as `FormatVersion` prints it, parses back to the version. -/
theorem parseVersion_of_digits {s : String} (v : UInt32)
    (digits : versionDigits s = Nat.toDigits 10 v.toNat) : parseVersion s = .ok v := by
  rw [parseVersion_eq_ok_iff, VersionText, digits, decimalValue_toDigits]
  exact ⟨⟨toDigits_ne_nil _, fun _ member => isDigit_of_mem_toDigits member,
    v.toBitVec.isLt⟩, rfl⟩

/-- `ParseVersion` accepts exactly the texts whose trimmed form, less one leading `1.`, is a
non-empty run of ASCII digits of value below 2^32, and returns that value; so it reads back
every version `FormatVersion` prints, and every version's decimal text. -/
theorem parseVersion_accepts :
    (∀ (s : String) (v : UInt32),
      parseVersion s = .ok v ↔ VersionText s ∧ v.toNat = decimalValue (versionDigits s)) ∧
    (∀ v : UInt32, parseVersion (formatVersion v) = .ok v) ∧
    ∀ v : UInt32, parseVersion v.toNat.repr = .ok v :=
  ⟨parseVersion_eq_ok_iff, fun v => parseVersion_of_digits v (versionDigits_formatVersion v),
    fun v => parseVersion_of_digits v (versionDigits_repr v.toNat)⟩

end Wc3ts
