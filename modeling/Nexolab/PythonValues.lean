import Mathlib.Data.List.DropRight
import Mathlib.Tactic

/-!
# Python values

The telemetry service works on the values `json.loads` returns and on binary
floating-point numbers.  A text is the list of its code points, since a decoded
JSON text may hold a lone surrogate.  Floating point is a class with the
operations the service uses and no laws: no result below depends on how a
number is rounded.  `FloatValue` is an exact instance to run examples with.
-/

namespace Nexolab

abbrev CodePoints := List ℕ

def codePoints (text : String) : CodePoints := text.toList.map Char.toNat

theorem codePoints_injective : Function.Injective codePoints := by
  intro left right hequal
  have hchars : left.toList = right.toList :=
    (List.map_injective_iff.mpr fun a b hnat => by
      have h := congrArg Char.ofNat hnat
      simpa using h) hequal
  simpa using congrArg String.ofList hchars

def isPythonSpace (point : ℕ) : Bool :=
  (9 ≤ point && point ≤ 13) || (28 ≤ point && point ≤ 32) || point = 133 ||
    point = 160 || point = 5760 || (8192 ≤ point && point ≤ 8202) ||
    point = 8232 || point = 8233 || point = 8239 || point = 8287 ||
    point = 12288

/-- The elements between the first and the last which is not a space. -/
def stripWith {α : Type} (isSpace : α → Bool) (text : List α) : List α :=
  ((text.dropWhile isSpace).reverse.dropWhile isSpace).reverse

theorem stripWith_eq_self {α : Type} {isSpace : α → Bool} {text : List α}
    (htext : ∀ element ∈ text, isSpace element = false) :
    stripWith isSpace text = text := by
  have hdrop : ∀ elements : List α, (∀ element ∈ elements, isSpace element = false) →
      elements.dropWhile isSpace = elements := by
    intro elements helements
    cases elements with
    | nil => rfl
    | cons first rest =>
      rw [List.dropWhile_cons_of_neg]
      simp [helements first List.mem_cons_self]
  unfold stripWith
  rw [hdrop text htext, hdrop, List.reverse_reverse]
  intro element helement
  exact htext element (List.mem_reverse.mp helement)

theorem mem_stripWith {α : Type} {isSpace : α → Bool} {text : List α}
    {element : α} (hmem : element ∈ text) (hkept : isSpace element = false) :
    element ∈ stripWith isSpace text := by
  have hdrop : ∀ elements : List α, element ∈ elements → element ∈ elements.dropWhile isSpace := by
    intro elements helements
    induction elements with
    | nil => cases helements
    | cons first rest ih =>
      cases hfirst : isSpace first with
      | false => rwa [List.dropWhile_cons_of_neg (by simp [hfirst])]
      | true =>
        rw [List.dropWhile_cons_of_pos hfirst]
        apply ih
        rcases List.mem_cons.mp helements with rfl | hrest
        · rw [hkept] at hfirst
          cases hfirst
        · exact hrest
  unfold stripWith
  rw [List.mem_reverse]
  apply hdrop
  rw [List.mem_reverse]
  exact hdrop text hmem

instance lawfulBEqNatList : LawfulBEq (List ℕ) := inferInstance

instance lawfulBEqStringPair : LawfulBEq (String × String) := inferInstance

/-- A property of the characters of a text is decided character by character. -/
instance (priority := 2000) decidableForallChar (chars : List Char)
    (p : Char → Prop) [DecidablePred p] : Decidable (∀ char ∈ chars, p char) :=
  List.decidableBAll p chars

instance (priority := 2000) decidableForallOptionChar (char : Option Char)
    (p : Char → Prop) [DecidablePred p] : Decidable (∀ found ∈ char, p found) :=
  match char with
  | none => .isTrue fun _ hfound => nomatch hfound
  | some found => decidable_of_iff (p found)
      ⟨fun hp _ hsame => Option.some.inj hsame ▸ hp, fun hall => hall found rfl⟩

def pythonStrip (text : CodePoints) : CodePoints := stripWith isPythonSpace text

def stripText (text : String) : String :=
  String.ofList (stripWith (fun char => isPythonSpace char.toNat) text.toList)

theorem stripWith_idem {α : Type} (isSpace : α → Bool) (text : List α) :
    stripWith isSpace (stripWith isSpace text) = stripWith isSpace text := by
  have hright : ∀ elements : List α, stripWith isSpace elements =
      (elements.dropWhile isSpace).rdropWhile isSpace := fun _ => rfl
  have hstart : (stripWith isSpace text).dropWhile isSpace = stripWith isSpace text := by
    rw [List.dropWhile_eq_self_iff]
    intro hlen
    have hpart : stripWith isSpace text <+: text.dropWhile isSpace :=
      List.rdropWhile_prefix isSpace _
    have hlonger : 0 < (text.dropWhile isSpace).length :=
      hlen.trans_le hpart.length_le
    have hhead := List.dropWhile_get_zero_not isSpace text hlonger
    simpa [hpart.getElem hlen] using hhead
  rw [hright (stripWith isSpace text), hstart, hright text]
  exact List.rdropWhile_idempotent isSpace _

theorem stripText_idem (text : String) :
    stripText (stripText text) = stripText text := by
  unfold stripText
  rw [String.toList_ofList, stripWith_idem]

class PythonFloat (F : Type) where
  zero : F
  /-- `float(n)`; `none` is the `OverflowError` of a too large integer. -/
  ofInt : ℤ → Option F
  /-- `float(text)` of a JSON number with a fraction or an exponent. -/
  ofLiteral : CodePoints → F
  (notANumber infinity : F)
  neg : F → F
  isFinite : F → Bool
  (lt le : F → F → Bool)
  sub : F → F → F

/-- `max(left, right)`: the first argument unless the second is larger. -/
def PythonFloat.max {F : Type} [PythonFloat F] (left right : F) : F :=
  if PythonFloat.lt left right then right else left

/-- The values `json.loads` returns.  The fields of an object have distinct
keys and keep their insertion order. -/
inductive JsonValue (F : Type) where
  | null
  | bool (value : Bool)
  | int (value : ℤ)
  | float (value : F)
  | string (value : CodePoints)
  | array (items : List (JsonValue F))
  | object (fields : List (CodePoints × JsonValue F))

abbrev JsonFields (F : Type) := List (CodePoints × JsonValue F)

def dictGet {F : Type} (fields : JsonFields F) (key : String) :
    Option (JsonValue F) :=
  (fields.find? fun field => field.1 = codePoints key).map Prod.snd

/-! ## An exact instance -/

inductive FloatValue where
  | notANumber
  | negInfinity
  | infinity
  | finite (value : ℚ)
  deriving DecidableEq

namespace FloatValue

def overflowBound : ℚ := 2 ^ 1024 - 2 ^ 970

def ofRational (value : ℚ) : FloatValue :=
  if overflowBound ≤ value then .infinity
  else if value ≤ -overflowBound then .negInfinity
  else .finite value

def neg : FloatValue → FloatValue
  | .notANumber => .notANumber
  | .negInfinity => .infinity
  | .infinity => .negInfinity
  | .finite value => .finite (-value)

def lt : FloatValue → FloatValue → Bool
  | .notANumber, _ => false
  | _, .notANumber => false
  | .finite left, .finite right => left < right
  | .negInfinity, .negInfinity => false
  | .negInfinity, _ => true
  | _, .negInfinity => false
  | .infinity, _ => false
  | .finite _, .infinity => true

def le (left right : FloatValue) : Bool :=
  lt left right || (left = right && left ≠ .notANumber)

def sub : FloatValue → FloatValue → FloatValue
  | .finite left, .finite right => ofRational (left - right)
  | .notANumber, _ => .notANumber
  | _, .notANumber => .notANumber
  | .infinity, .infinity => .notANumber
  | .negInfinity, .negInfinity => .notANumber
  | .infinity, _ => .infinity
  | .negInfinity, _ => .negInfinity
  | .finite _, .infinity => .negInfinity
  | .finite _, .negInfinity => .infinity

def digitsValue (digits : CodePoints) : ℕ :=
  digits.foldl (fun value digit => 10 * value + (digit - 48)) 0

/-- The value of a JSON number text: sign, integer digits, fraction digits and
exponent. -/
def ofLiteral (text : CodePoints) : FloatValue :=
  let negative := text.head? = some 45
  let unsigned := if negative then text.drop 1 else text
  let isExponent := fun point => point = 101 ∨ point = 69
  let mantissa := unsigned.takeWhile fun point => ¬ isExponent point
  let exponentText := (unsigned.dropWhile fun point => ¬ isExponent point).drop 1
  let integerDigits := mantissa.takeWhile (· ≠ 46)
  let fractionDigits := (mantissa.dropWhile (· ≠ 46)).drop 1
  let magnitude : ℚ :=
    digitsValue (integerDigits ++ fractionDigits) / 10 ^ fractionDigits.length
  let exponent : ℤ :=
    match exponentText with
    | 45 :: digits => -(digitsValue digits : ℤ)
    | 43 :: digits => digitsValue digits
    | digits => digitsValue digits
  let value := magnitude * 10 ^ exponent
  ofRational (if negative then -value else value)

instance : PythonFloat FloatValue where
  zero := .finite 0
  ofInt value :=
    match ofRational value with
    | .finite rational => some (.finite rational)
    | _ => none
  ofLiteral
  notANumber := .notANumber
  infinity := .infinity
  neg
  isFinite value := match value with
    | .finite _ => true
    | _ => false
  lt
  le
  sub

end FloatValue

end Nexolab
