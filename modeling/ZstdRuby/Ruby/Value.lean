import ZstdRuby.Libzstd.Common

/-! # The Ruby values and exceptions the extension meets -/

namespace ZstdRuby

inductive RubyError
  | runtimeError (message : String)
  | typeError (message : String)
  | argumentError (message : String)
  | rangeError (message : String)
  | standardError (message : String)
  deriving DecidableEq, Repr

/-- The native dictionary behind a `Zstd::CDict`: the bytes and the compression
level it was created with. -/
structure CDict where
  dict : Bytes
  level : Int
  deriving DecidableEq

structure DDict where
  dict : Bytes
  deriving DecidableEq

/-- A Ruby argument, as far as the extension and the IO classes tell values apart.
A Float is given by its truncation, `none` for the infinities and NaN, and by how
it is shown. Any other object has a class, and may have the methods `to_str` and
`to_int`, which give a String or an Integer, or raise. -/
inductive Value
  | nil
  | integer (number : Int)
  | float (truncated : Option Int) (shown : String)
  | string (bytes : Bytes)
  | cdict (dictionary : CDict)
  | ddict (dictionary : DDict)
  | object (className : String) (toStr : Option (Except RubyError Bytes))
      (toInt : Option (Except RubyError Int))
  deriving DecidableEq

namespace Value

def className : Value → String
  | nil => "nil"
  | integer _ => "Integer"
  | float _ _ => "Float"
  | string _ => "String"
  | cdict _ => "Zstd::CDict"
  | ddict _ => "Zstd::DDict"
  | object name _ _ => name

def stringValue : Value → Except RubyError Bytes
  | string bytes => .ok bytes
  | object _ (some converted) _ => converted
  | value => .error (.typeError ("no implicit conversion of " ++ value.className ++ " into String"))

def integerToLong (number : Int) : Except RubyError Int :=
  if number < -2 ^ 63 ∨ 2 ^ 63 ≤ number then
    .error (.rangeError "bignum too big to convert into 'long'")
  else .ok number

def num2long : Value → Except RubyError Int
  | nil => .error (.typeError "no implicit conversion from nil to integer")
  | integer number => integerToLong number
  | float truncated shown =>
      match truncated with
      | some number =>
          if number < -2 ^ 63 ∨ 2 ^ 63 ≤ number then
            .error (.rangeError ("float " ++ shown ++ " out of range of integer"))
          else .ok number
      | none => .error (.rangeError ("float " ++ shown ++ " out of range of integer"))
  | object _ _ (some converted) => converted.bind integerToLong
  | value =>
      .error (.typeError ("no implicit conversion of " ++ value.className ++ " into Integer"))

def num2int (value : Value) : Except RubyError Int :=
  match value.num2long with
  | .error raised => .error raised
  | .ok number =>
      if number < -2 ^ 31 then
        .error (.rangeError ("integer " ++ toString number ++ " too small to convert to 'int'"))
      else if 2 ^ 31 ≤ number then
        .error (.rangeError ("integer " ++ toString number ++ " too big to convert to 'int'"))
      else
        .ok number

@[simp] theorem stringValue_string (bytes : Bytes) :
    (string bytes).stringValue = .ok bytes := rfl

theorem num2int_of_num2long {value : Value} {number : Int}
    (converted : value.num2long = .ok number) (low : -2 ^ 31 ≤ number) (high : number < 2 ^ 31) :
    value.num2int = .ok number := by
  simp only [num2int, converted]
  rw [if_neg (by omega), if_neg (by omega)]

theorem num2int_integer {number : Int} (low : -2 ^ 31 ≤ number) (high : number < 2 ^ 31) :
    (integer number).num2int = .ok number := by
  apply num2int_of_num2long _ low high
  rw [num2long, integerToLong, if_neg (by omega)]

theorem num2int_integer_refused {number : Int}
    (outside : number < -2 ^ 31 ∨ 2 ^ 31 ≤ number) :
    ∃ raised, (integer number).num2int = .error raised := by
  simp only [num2int, num2long, integerToLong]
  by_cases long : number < -2 ^ 63 ∨ 2 ^ 63 ≤ number
  · rw [if_pos long]
    exact ⟨_, rfl⟩
  · rw [if_neg long]
    simp only
    split
    · exact ⟨_, rfl⟩
    · rw [if_pos (by omega)]
      exact ⟨_, rfl⟩

/-- A Float is truncated. -/
example : (float (some 1) "1.5").num2int = .ok 1 := rfl

end Value

abbrev Kwargs := List (String × Value)

/-- `rb_get_kwargs` with no required and some optional keywords. An absent
keyword is `none` (`Qundef`); a keyword that is not listed raises. -/
def rbGetKwargs (kwargs : Kwargs) (keys : List String) :
    Except RubyError (String → Option Value) :=
  match (kwargs.map Prod.fst).filter (fun key => !keys.contains key) with
  | [] => .ok fun key => kwargs.lookup key
  | [unknown] => .error (.argumentError ("unknown keyword: :" ++ unknown))
  | unknown => .error (.argumentError
      ("unknown keywords: " ++ ", ".intercalate (unknown.map (":" ++ ·))))

theorem rbGetKwargs_single (key : String) (value : Value) :
    rbGetKwargs [(key, value)] [key] = .ok fun name => [(key, value)].lookup name := by
  simp [rbGetKwargs]

theorem rbGetKwargs_pair (first second : String) (left right : Value) :
    rbGetKwargs [(first, left), (second, right)] [first, second] =
      .ok fun name => [(first, left), (second, right)].lookup name := by
  simp [rbGetKwargs]

def UnknownKeyword (kwargs : Kwargs) (keys : List String) : Prop :=
  ∃ keyword ∈ kwargs.map Prod.fst, keyword ∉ keys

theorem filter_eq_nil_iff_known (kwargs : Kwargs) (keys : List String) :
    (kwargs.map Prod.fst).filter (fun key => !keys.contains key) = [] ↔
      ¬UnknownKeyword kwargs keys := by
  simp only [List.filter_eq_nil_iff, UnknownKeyword, not_exists, not_and, not_not]
  simp

theorem rbGetKwargs_of_known {kwargs : Kwargs} {keys : List String}
    (known : ¬UnknownKeyword kwargs keys) :
    rbGetKwargs kwargs keys = .ok fun key => kwargs.lookup key := by
  rw [rbGetKwargs, (filter_eq_nil_iff_known kwargs keys).mpr known]

theorem rbGetKwargs_of_unknown {kwargs : Kwargs} {keys : List String}
    (unknown : UnknownKeyword kwargs keys) :
    ∃ raised, rbGetKwargs kwargs keys = .error raised := by
  rw [rbGetKwargs]
  split
  · rename_i empty
    exact absurd unknown ((filter_eq_nil_iff_known kwargs keys).mp empty)
  · exact ⟨_, rfl⟩
  · exact ⟨_, rfl⟩

/-! ## Strings -/

/-- `rb_str_new(source, size)`. It reads `size` bytes from `source`; past the
end of the source string lies whatever memory holds there, given by `beyond`. -/
def rbStrNew (source : Bytes) (beyond : Nat → UInt8) (size : Nat) : Bytes :=
  source.take size ++ (List.range (size - source.length)).map beyond

@[simp] theorem rbStrNew_length (source : Bytes) (beyond : Nat → UInt8) (size : Nat) :
    (rbStrNew source beyond size).length = size := by
  simp [rbStrNew]
  omega

def rbStrResize (bytes : Bytes) (size : Nat) : Bytes := bytes.take size

def memcpy (buffer : Bytes) (offset : Nat) (source : Bytes) : Bytes :=
  buffer.take offset ++ source ++ buffer.drop (offset + source.length)

theorem memcpy_length {buffer : Bytes} {offset : Nat} {source : Bytes}
    (fits : offset + source.length ≤ buffer.length) :
    (memcpy buffer offset source).length = buffer.length := by
  simp [memcpy]
  omega

theorem memcpy_zero_take (buffer source : Bytes) :
    (memcpy buffer 0 source).take source.length = source := by
  simp [memcpy]

end ZstdRuby
