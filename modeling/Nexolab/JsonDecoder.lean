import Nexolab.FallibleList
import Nexolab.PythonValues

/-!
# `json.loads`

The scanner of CPython over the code points of a text.  It stops at the first
defect it meets: a syntax error is a `JSONDecodeError` with a message and a
position, an integer literal of more than 4300 digits a plain `ValueError`, and
nesting beyond the recursion limit a `RecursionError`.  Its loops run with the
length of the remaining text as fuel; `loads_finishes` says that this is enough.
-/

namespace Nexolab

inductive JsonError where
  /-- A message and the number of code points from its position to the end. -/
  | decode (message : String) (left : ℕ)
  | longInteger (digits : ℕ)
  | recursion
  | unfinished

abbrev Scan (α : Type) := Except JsonError (α × CodePoints)

inductive Progress (σ α : Type) where
  | finish (value : α) (rest : CodePoints)
  | more (state : σ) (rest : CodePoints)

def consume {σ α : Type} (step : σ → CodePoints → Except JsonError (Progress σ α)) :
    ℕ → σ → CodePoints → Scan α
  | 0, _, _ => .error .unfinished
  | fuel + 1, state, rest =>
    match step state rest with
    | .error error => .error error
    | .ok (.finish value remaining) => .ok (value, remaining)
    | .ok (.more next remaining) => consume step fuel next remaining

/-- Run the steps of a loop on a text which each of them shortens. -/
def scanLoop {σ α : Type} (step : σ → CodePoints → Except JsonError (Progress σ α))
    (state : σ) (text : CodePoints) : Scan α :=
  consume step (text.length + 1) state text

def isJsonSpace (point : ℕ) : Bool :=
  point = 32 || point = 9 || point = 10 || point = 13

def skipSpace (text : CodePoints) : CodePoints := text.dropWhile isJsonSpace

def isDigit (point : ℕ) : Bool := 48 ≤ point && point ≤ 57

def hexValue (point : ℕ) : Option ℕ :=
  if 48 ≤ point ∧ point ≤ 57 then some (point - 48)
  else if 97 ≤ point ∧ point ≤ 102 then some (point - 87)
  else if 65 ≤ point ∧ point ≤ 70 then some (point - 55)
  else none

def hexUnit (digits : CodePoints) : Option ℕ :=
  digits.foldlM (fun value digit => (hexValue digit).map (16 * value + ·)) 0

def simpleEscape (point : ℕ) : Option ℕ :=
  if point = 34 ∨ point = 92 ∨ point = 47 then some point
  else if point = 98 then some 8
  else if point = 102 then some 12
  else if point = 110 then some 10
  else if point = 114 then some 13
  else if point = 116 then some 9
  else none

def isHighSurrogate (unit : ℕ) : Bool := 0xD800 ≤ unit && unit ≤ 0xDBFF

def isLowSurrogate (unit : ℕ) : Bool := 0xDC00 ≤ unit && unit ≤ 0xDFFF

/-- The unit of four hexadecimal digits after `u`; the text continues after
them. -/
def scanUnit (text : CodePoints) : Scan ℕ :=
  if text.length ≤ 4 then
    .error (.decode "Invalid \\uXXXX escape" (text.length + 1))
  else
    match hexUnit (text.take 4) with
    | none => .error (.decode "Invalid \\uXXXX escape" (text.length + 1))
    | some unit => .ok (unit, text.drop 4)

/-- A `\u` escape, joined with a following one where both are a surrogate
pair. -/
def scanUnicodeEscape (text : CodePoints) :
    Except JsonError (ℕ × CodePoints) := do
  let (unit, rest) ← scanUnit text
  if isHighSurrogate unit && rest.take 2 = [92, 117] && 6 < rest.length then
    let (second, remaining) ← scanUnit (rest.drop 2)
    if isLowSurrogate second then
      return (0x10000 + (unit - 0xD800) * 1024 + (second - 0xDC00), remaining)
    else return (unit, rest)
  else return (unit, rest)

/-- One step of `scanstring`, after the opening quote at which `opening` code
points were left.  The scanned code points are collected in reverse. -/
def stringStep (opening : ℕ) (scanned : CodePoints) (text : CodePoints) :
    Except JsonError (Progress CodePoints CodePoints) :=
  match text with
  | [] => .error (.decode "Unterminated string starting at" opening)
  | point :: rest =>
    if point = 34 then .ok (.finish scanned.reverse rest)
    else if point = 92 then
      match rest with
      | [] => .error (.decode "Unterminated string starting at" opening)
      | escape :: after =>
        if escape = 117 then do
          let (unit, remaining) ← scanUnicodeEscape after
          return .more (unit :: scanned) remaining
        else
          match simpleEscape escape with
          | none => .error (.decode "Invalid \\escape" text.length)
          | some unit => .ok (.more (unit :: scanned) after)
    else if point ≤ 31 then
      .error (.decode "Invalid control character at" text.length)
    else .ok (.more (point :: scanned) rest)

def scanString (text : CodePoints) : Scan CodePoints :=
  scanLoop (stringStep (text.length + 1)) [] text

def takeDigits (text : CodePoints) : CodePoints := text.takeWhile isDigit

def decimalValue (digits : CodePoints) : ℕ :=
  digits.foldl (fun value digit => 10 * value + (digit - 48)) 0

def numberSign (text : CodePoints) : CodePoints :=
  if text.head? = some 45 then [45] else []

/-- The integer part: one zero, or digits which do not start with zero. -/
def integerPart (text : CodePoints) : CodePoints :=
  if text.head? = some 48 then [48] else takeDigits text

def fractionPart (text : CodePoints) : CodePoints :=
  match text with
  | 46 :: rest => if takeDigits rest = [] then [] else 46 :: takeDigits rest
  | _ => []

def exponentSign (text : CodePoints) : CodePoints :=
  match text.head? with
  | some 43 => [43]
  | some 45 => [45]
  | _ => []

def exponentPart (text : CodePoints) : CodePoints :=
  match text with
  | [] => []
  | point :: rest =>
    let sign := exponentSign rest
    let digits := takeDigits (rest.drop sign.length)
    if (point = 101 ∨ point = 69) ∧ digits ≠ [] then point :: (sign ++ digits)
    else []

structure NumberText where
  (sign digits fraction exponent : CodePoints)

/-- The longest number a text starts with; without digits there is none. -/
def numberText (text : CodePoints) : NumberText :=
  let sign := numberSign text
  let unsigned := text.drop sign.length
  let digits := integerPart unsigned
  let afterInteger := unsigned.drop digits.length
  let fraction := fractionPart afterInteger
  let exponent := exponentPart (afterInteger.drop fraction.length)
  ⟨sign, digits, fraction, exponent⟩

def NumberText.text (number : NumberText) : CodePoints :=
  number.sign ++ number.digits ++ number.fraction ++ number.exponent

def NumberText.isInteger (number : NumberText) : Bool :=
  number.fraction = [] && number.exponent = []

def NumberText.intValue (number : NumberText) : ℤ :=
  if number.sign = [] then decimalValue number.digits
  else -decimalValue number.digits

def maxStrDigits : ℕ := 4300

section Values

variable {F : Type} [PythonFloat F]

def matchNumber (text : CodePoints) : Scan (JsonValue F) :=
  let number := numberText text
  let rest := text.drop number.text.length
  if number.digits = [] then .error (.decode "Expecting value" text.length)
  else if !number.isInteger then
    .ok (.float (PythonFloat.ofLiteral number.text), rest)
  else if maxStrDigits < number.digits.length then
    .error (.longInteger number.digits.length)
  else .ok (.int number.intValue, rest)

def constants : List (CodePoints × JsonValue F) :=
  [(codePoints "null", .null), (codePoints "true", .bool true),
    (codePoints "false", .bool false),
    (codePoints "NaN", .float PythonFloat.notANumber),
    (codePoints "Infinity", .float PythonFloat.infinity),
    (codePoints "-Infinity", .float (PythonFloat.neg PythonFloat.infinity))]

def scanScalar (text : CodePoints) : Scan (JsonValue F) :=
  match constants.find? fun constant => constant.1.isPrefixOf text with
  | some (name, value) => .ok (value, text.drop name.length)
  | none => matchNumber text

/-- What follows an element: the closing bracket, or a comma and another
element. -/
def scanSeparator (close : ℕ) (trailing : String) (text : CodePoints) :
    Scan Bool :=
  match text with
  | [] => .error (.decode "Expecting ',' delimiter" 0)
  | point :: rest =>
    if point = close then .ok (true, rest)
    else if point = 44 then
      if (skipSpace rest).head? = some close then
        .error (.decode trailing text.length)
      else .ok (false, skipSpace rest)
    else .error (.decode "Expecting ',' delimiter" text.length)

def arrayStep (scanItem : CodePoints → Scan (JsonValue F))
    (items : List (JsonValue F)) (text : CodePoints) :
    Except JsonError (Progress (List (JsonValue F)) (JsonValue F)) := do
  let (item, afterItem) ← scanItem text
  let (closed, rest) ← scanSeparator 93
    "Illegal trailing comma before end of array" (skipSpace afterItem)
  if closed then return .finish (.array (items ++ [item])) rest
  else return .more (items ++ [item]) rest

def parseArray (scanItem : CodePoints → Scan (JsonValue F))
    (text : CodePoints) : Scan (JsonValue F) :=
  let start := skipSpace text
  if start.head? = some 93 then .ok (.array [], start.drop 1)
  else scanLoop (arrayStep scanItem) [] start

omit [PythonFloat F] in
def dictSet (fields : JsonFields F) (key : CodePoints) (value : JsonValue F) :
    JsonFields F :=
  if fields.any fun field => field.1 = key then
    fields.map fun field => if field.1 = key then (key, value) else field
  else fields ++ [(key, value)]

def scanName (text : CodePoints) : Scan CodePoints :=
  match text with
  | 34 :: rest => scanString rest
  | _ => .error (.decode "Expecting property name enclosed in double quotes"
      text.length)

def scanColon (text : CodePoints) : Scan Unit :=
  match text with
  | 58 :: rest => .ok ((), skipSpace rest)
  | _ => .error (.decode "Expecting ':' delimiter" text.length)

def objectStep (scanItem : CodePoints → Scan (JsonValue F))
    (fields : JsonFields F) (text : CodePoints) :
    Except JsonError (Progress (JsonFields F) (JsonValue F)) := do
  let (name, afterName) ← scanName text
  let ((), afterColon) ← scanColon (skipSpace afterName)
  let (value, afterValue) ← scanItem afterColon
  let (closed, rest) ← scanSeparator 125
    "Illegal trailing comma before end of object" (skipSpace afterValue)
  if closed then return .finish (.object (dictSet fields name value)) rest
  else return .more (dictSet fields name value) rest

def parseObject (scanItem : CodePoints → Scan (JsonValue F))
    (text : CodePoints) : Scan (JsonValue F) :=
  let start := skipSpace text
  if start.head? = some 125 then .ok (.object [], start.drop 1)
  else scanLoop (objectStep scanItem) [] start

/-- `scan_once`.  Without a scanner for what a container holds the recursion
limit is reached. -/
def scanValue (scanItem : Option (CodePoints → Scan (JsonValue F)))
    (text : CodePoints) : Except JsonError (JsonValue F × CodePoints) :=
  match text with
  | [] => .error (.decode "Expecting value" 0)
  | point :: rest =>
    if point = 34 then do
      let (value, remaining) ← scanString rest
      return (.string value, remaining)
    else if point = 123 ∨ point = 91 then
      match scanItem with
      | none => .error .recursion
      | some scanItem =>
        if point = 123 then parseObject scanItem rest
        else parseArray scanItem rest
    else scanScalar text

def scanOnce : ℕ → CodePoints → Scan (JsonValue F)
  | 0 => scanValue none
  | depth + 1 => scanValue (some (scanOnce depth))

def loads (recursionLimit : ℕ) (text : CodePoints) :
    Except JsonError (JsonValue F) :=
  if text.head? = some 0xFEFF then
    .error (.decode "Unexpected UTF-8 BOM (decode using utf-8-sig)" text.length)
  else
    match scanOnce recursionLimit (skipSpace text) with
    | .error error => .error error
    | .ok (value, rest) =>
      if skipSpace rest = [] then .ok value
      else .error (.decode "Extra data" (skipSpace rest).length)

end Values

def jsonErrorText (text : CodePoints) (message : String) (left : ℕ) : String :=
  let position := text.length - left
  let before := text.take position
  let line := before.countP (· = 10) + 1
  let column := (before.reverse.takeWhile (· ≠ 10)).length + 1
  message ++ ": line " ++ toString line ++ " column " ++ toString column ++
    " (char " ++ toString position ++ ")"

/-! ## The scanner finishes -/

/-- The scan needs no more fuel than it has, and its result has the property. -/
def Finishes {α : Type} (property : α → Prop) : Except JsonError α → Prop
  | .error error => error ≠ .unfinished
  | .ok value => property value

theorem finishes_pure {α : Type} (property : α → Prop) (value : α) :
    Finishes property (pure value) ↔ property value :=
  Iff.rfl

theorem Finishes.bind {α β : Type} {property : α → Prop} {next : β → Prop}
    {scan : Except JsonError α} {continued : α → Except JsonError β}
    (hscan : Finishes property scan)
    (hnext : ∀ value, property value → Finishes next (continued value)) :
    Finishes next (scan >>= continued) := by
  cases scan with
  | error error => exact hscan
  | ok value => exact hnext value hscan

theorem Finishes.mono {α : Type} {property weaker : α → Prop}
    {scan : Except JsonError α} (hscan : Finishes property scan)
    (hweaker : ∀ value, property value → weaker value) : Finishes weaker scan := by
  cases scan with
  | error error => exact hscan
  | ok value => exact hweaker value hscan

def Consumes {α : Type} (scan : CodePoints → Scan α) : Prop :=
  ∀ text, Finishes (fun result => result.2.length < text.length) (scan text)

def Progress.rest {σ α : Type} : Progress σ α → CodePoints
  | .finish _ rest => rest
  | .more _ rest => rest

def StepConsumes {σ α : Type} (step : σ → CodePoints → Except JsonError (Progress σ α)) : Prop :=
  ∀ state text, Finishes (fun progress => progress.rest.length < text.length) (step state text)

theorem StepConsumes.consume {σ α : Type} {step : σ → CodePoints → Except JsonError (Progress σ α)}
    (hstep : StepConsumes step) {fuel : ℕ} {state : σ} {text : CodePoints}
    (hfuel : text.length < fuel) :
    Finishes (fun result => result.2.length < text.length) (consume step fuel state text) := by
  induction fuel generalizing state text with
  | zero => omega
  | succ fuel ih =>
    have hprogress := hstep state text
    unfold Nexolab.consume
    cases hres : step state text with
    | error error => rwa [hres] at hprogress
    | ok progress =>
      rw [hres] at hprogress
      cases progress with
      | finish value rest => exact hprogress
      | more next rest =>
        have hshorter : rest.length < text.length := hprogress
        apply (ih (by omega)).mono
        intro result hres
        omega

theorem StepConsumes.scanLoop {σ α : Type} {step : σ → CodePoints → Except JsonError (Progress σ α)}
    (hstep : StepConsumes step) (state : σ) : Consumes (scanLoop step state) :=
  fun text => hstep.consume (Nat.lt_succ_self text.length)

theorem skipSpace_length_le (text : CodePoints) :
    (skipSpace text).length ≤ text.length :=
  (List.dropWhile_sublist isJsonSpace).length_le

theorem scanUnit_consumes : Consumes scanUnit := by
  intro text
  unfold scanUnit
  split_ifs
  · simp [Finishes]
  · split
    · simp [Finishes]
    · simp only [Finishes, List.length_drop]
      omega

theorem scanUnicodeEscape_consumes : Consumes scanUnicodeEscape := by
  intro text
  unfold scanUnicodeEscape
  apply (scanUnit_consumes text).bind
  rintro ⟨unit, rest⟩ hrest
  dsimp only at hrest ⊢
  split_ifs
  · apply (scanUnit_consumes (rest.drop 2)).bind
    rintro ⟨second, remaining⟩ hremaining
    rw [List.length_drop] at hremaining
    dsimp only at hremaining ⊢
    split_ifs <;> simp only [finishes_pure] <;> omega
  · exact hrest

theorem stringStep_consumes (opening : ℕ) : StepConsumes (stringStep opening) := by
  intro scanned text
  unfold stringStep
  split
  · simp [Finishes]
  next point rest =>
    split_ifs
    · simp [Finishes, Progress.rest]
    · split
      · simp [Finishes]
      next escape after =>
        split_ifs
        · apply (scanUnicodeEscape_consumes after).bind
          rintro ⟨unit, remaining⟩ hremaining
          simp only [finishes_pure, Progress.rest, List.length_cons]
          dsimp only at hremaining
          omega
        · split <;> simp only [Finishes, Progress.rest, List.length_cons] <;> grind
    · simp [Finishes]
    · simp [Finishes, Progress.rest]

theorem scanString_consumes : Consumes scanString :=
  fun text => (stringStep_consumes _).scanLoop [] text

section Scanning

variable {F : Type} [PythonFloat F]

theorem matchNumber_consumes :
    Consumes (matchNumber : CodePoints → Scan (JsonValue F)) := by
  intro text
  unfold matchNumber
  dsimp only
  split_ifs with hnone
  · simp [Finishes]
  all_goals
    have hnumber : 0 < (numberText text).text.length := by
      have hdigits := List.length_pos_iff.mpr hnone
      simp only [NumberText.text, List.length_append]
      omega
    have htext : 0 < text.length := by
      cases text with
      | nil => exact absurd rfl hnone
      | cons => simp
    simp [Finishes]
  all_goals omega

theorem scanScalar_consumes :
    Consumes (scanScalar : CodePoints → Scan (JsonValue F)) := by
  intro text
  unfold scanScalar
  split
  next name constant hfind =>
    have hprefix : name <+: text := by
      simpa using List.find?_some hfind
    have hlen : 0 < name.length := by
      have hmem := List.mem_of_find?_eq_some hfind
      simp only [constants, List.mem_cons, Prod.mk.injEq, List.not_mem_nil, or_false] at hmem
      rcases hmem with h | h | h | h | h | h <;> rw [h.1] <;> decide
    have hle := hprefix.length_le
    simp only [Finishes, List.length_drop]
    omega
  next => exact matchNumber_consumes text

omit [PythonFloat F] in
theorem scanSeparator_consumes (close : ℕ) (trailing : String) :
    Consumes (scanSeparator close trailing) := by
  intro text
  unfold scanSeparator
  split
  · simp [Finishes]
  next point rest =>
    have hle := skipSpace_length_le rest
    split_ifs <;> simp only [Finishes, List.length_cons] <;> grind

variable {scanItem : CodePoints → Scan (JsonValue F)}

omit [PythonFloat F] in
theorem arrayStep_consumes (hitem : Consumes scanItem) : StepConsumes (arrayStep scanItem) := by
  intro items text
  unfold arrayStep
  apply (hitem text).bind
  rintro ⟨item, afterItem⟩ hafter
  apply (scanSeparator_consumes _ _ _).bind
  rintro ⟨closed, rest⟩ hrest
  have hspace := skipSpace_length_le afterItem
  dsimp only at hafter hrest ⊢
  split_ifs <;> simp only [finishes_pure, Progress.rest] <;> omega

theorem scanName_consumes : Consumes scanName := by
  intro text
  unfold scanName
  split
  next rest =>
    apply (scanString_consumes rest).mono
    intro result hres
    rw [List.length_cons]
    omega
  next => simp [Finishes]

theorem scanColon_consumes : Consumes scanColon := by
  intro text
  unfold scanColon
  split
  next rest =>
    have hle := skipSpace_length_le rest
    simp only [Finishes, List.length_cons]
    omega
  next => simp [Finishes]

omit [PythonFloat F] in
theorem objectStep_consumes (hitem : Consumes scanItem) : StepConsumes (objectStep scanItem) := by
  intro fields text
  unfold objectStep
  apply (scanName_consumes text).bind
  rintro ⟨name, afterName⟩ hname
  apply (scanColon_consumes _).bind
  rintro ⟨_, afterColon⟩ hcolon
  apply (hitem afterColon).bind
  rintro ⟨value, afterValue⟩ hvalue
  apply (scanSeparator_consumes _ _ _).bind
  rintro ⟨closed, rest⟩ hrest
  have hnameSpace := skipSpace_length_le afterName
  have hvalueSpace := skipSpace_length_le afterValue
  dsimp only at hname hcolon hvalue hrest ⊢
  split_ifs <;> simp only [finishes_pure, Progress.rest] <;> omega

omit [PythonFloat F] in
theorem container_consumes
    {step : List α → CodePoints → Except JsonError (Progress (List α) (JsonValue F))}
    (hstep : StepConsumes step) (empty : JsonValue F) (close : ℕ) (text : CodePoints) :
    Finishes (fun result => result.2.length < text.length + 1)
      (if (skipSpace text).head? = some close then .ok (empty, (skipSpace text).drop 1)
      else scanLoop step [] (skipSpace text)) := by
  have hspace := skipSpace_length_le text
  split_ifs
  · simp only [Finishes, List.length_drop]
    omega
  · apply (hstep.scanLoop [] (skipSpace text)).mono
    intro result hres
    omega

theorem scanValue_consumes {scanItem : Option (CodePoints → Scan (JsonValue F))}
    (hitem : ∀ scan, scanItem = some scan → Consumes scan) :
    Consumes (scanValue scanItem) := by
  intro text
  unfold scanValue
  split
  · simp [Finishes]
  next point rest =>
    split_ifs
    · apply (scanString_consumes rest).bind
      rintro ⟨value, remaining⟩ hremaining
      simp only [finishes_pure, List.length_cons]
      dsimp only at hremaining
      omega
    · split
      · simp [Finishes]
      next scan =>
        exact container_consumes (objectStep_consumes (hitem scan rfl)) _ _ rest
    · split
      · simp [Finishes]
      next scan =>
        exact container_consumes (arrayStep_consumes (hitem scan rfl)) _ _ rest
    · exact scanScalar_consumes _

theorem scanOnce_consumes (depth : ℕ) :
    Consumes (scanOnce depth : CodePoints → Scan (JsonValue F)) := by
  induction depth with
  | zero => exact scanValue_consumes nofun
  | succ inner ih =>
    apply scanValue_consumes
    intro scan hscan
    cases hscan
    exact ih

theorem loads_finishes (recursionLimit : ℕ) (text : CodePoints) :
    Finishes (fun _ => True) (loads recursionLimit text : Except JsonError (JsonValue F)) := by
  have hvalue := scanOnce_consumes (F := F) recursionLimit (skipSpace text)
  unfold loads
  split_ifs
  · simp [Finishes]
  · split
    next error hscan => rwa [hscan] at hvalue
    next => split_ifs <;> simp [Finishes]

theorem loads_longInteger (recursionLimit : ℕ) {digits : ℕ} (hdigits : maxStrDigits < digits) :
    (loads recursionLimit (List.replicate digits 49) :
      Except JsonError (JsonValue F)) = .error (.longInteger digits) := by
  obtain ⟨rest, rfl⟩ : ∃ rest, digits = rest + 1 :=
    ⟨digits - 1, by unfold maxStrDigits at hdigits; omega⟩
  have hall : takeDigits (List.replicate (rest + 1) 49) = List.replicate (rest + 1) 49 := by
    unfold takeDigits
    rw [List.takeWhile_replicate]
    rfl
  have hnumber : numberText (List.replicate (rest + 1) 49) =
      ⟨[], List.replicate (rest + 1) 49, [], []⟩ := by
    have hsign : numberSign (List.replicate (rest + 1) 49) = [] := rfl
    have hinteger : integerPart (List.replicate (rest + 1) 49) =
        List.replicate (rest + 1) 49 := hall
    simp [numberText, hsign, hinteger, fractionPart, exponentPart]
  have hmatch : (matchNumber (List.replicate (rest + 1) 49) :
      Scan (JsonValue F)) = .error (.longInteger (rest + 1)) := by
    unfold matchNumber
    rw [hnumber]
    simp [NumberText.isInteger, hdigits]
  have hscan : (scanScalar (List.replicate (rest + 1) 49) :
      Scan (JsonValue F)) = .error (.longInteger (rest + 1)) := by
    have hnone : ((constants : List (CodePoints × JsonValue F)).find? fun constant =>
          constant.1.isPrefixOf (List.replicate (rest + 1) 49)) = none := by
      rw [List.replicate_succ]
      rfl
    unfold scanScalar
    rw [hnone]
    exact hmatch
  have hvalue : ∀ scanItem : Option (CodePoints → Scan (JsonValue F)),
      scanValue scanItem (List.replicate (rest + 1) 49) = .error (.longInteger (rest + 1)) := by
    intro scanItem
    exact hscan
  have honce : (scanOnce recursionLimit (List.replicate (rest + 1) 49) :
      Scan (JsonValue F)) = .error (.longInteger (rest + 1)) := by
    cases recursionLimit with
    | zero => exact hvalue none
    | succ depth => exact hvalue _
  have hspace : skipSpace (List.replicate (rest + 1) 49) = List.replicate (rest + 1) 49 := rfl
  have hmark : ¬ (List.replicate (rest + 1) 49).head? = some 0xFEFF := by
    simp [List.replicate_succ]
  unfold loads
  rw [if_neg hmark, hspace, honce]

end Scanning

end Nexolab
