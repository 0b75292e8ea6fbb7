import Mathlib.Data.List.Basic

namespace TypedFields

/-!
# Typed fields

Lists of fields, each of them stored as a length, a type and a value; the
length counts the type and the value.  A length of zero ends the list.
-/

/-- A value and its type. -/
structure Field where
  kind : UInt8
  value : List UInt8
  deriving Repr, DecidableEq

/-- The bytes of a field. -/
def Field.encode (field : Field) : List UInt8 :=
  UInt8.ofNat (field.value.length + 1) :: field.kind :: field.value

/-- The bytes of fields one after the other. -/
def encode (fields : List Field) : List UInt8 :=
  fields.flatMap Field.encode

/-- The fields that bytes hold, if no field is cut off. -/
def parse : List UInt8 → Option (List Field)
  | [] => some []
  | length :: rest =>
      if length = 0 then
        some []
      else if rest.length < length.toNat then
        none
      else
        match rest.take length.toNat with
        | [] => none
        | kind :: value =>
            (parse (rest.drop length.toNat)).map fun fields =>
              { kind := kind, value := value } :: fields
termination_by bytes => bytes.length
decreasing_by
  simp only [List.length_drop, List.length_cons]
  omega

/-- A field in front of others. -/
theorem parse_encode_append
    {field : Field}
    (fits : field.value.length < 255)
    (rest : List UInt8) :
    parse (field.encode ++ rest) = (parse rest).map (field :: ·) := by
  have length : (UInt8.ofNat (field.value.length + 1)).toNat =
      field.value.length + 1 :=
    UInt8.toNat_ofNat_of_lt' (by simp only [UInt8.size]; omega)
  have filled : UInt8.ofNat (field.value.length + 1) ≠ 0 := by
    intro zero
    rw [zero] at length
    cases length
  have whole : (field.kind :: (field.value ++ rest)).take
      (field.value.length + 1) = field.kind :: field.value := by
    rw [List.take_succ_cons, List.take_left]
  have remaining : (field.kind :: (field.value ++ rest)).drop
      (field.value.length + 1) = rest := by
    rw [List.drop_succ_cons, List.drop_left]
  rw [Field.encode, List.cons_append, List.cons_append, parse, if_neg filled,
    length, whole, remaining, if_neg]
  simp only [List.length_cons, List.length_append]
  omega

/-- Fields are found again in the bytes that store them. -/
theorem parse_encode
    {fields : List Field}
    (fits : ∀ field ∈ fields, field.value.length < 255) :
    parse (encode fields) = some fields := by
  induction fields with
  | nil => rw [encode, List.flatMap_nil, parse]
  | cons field rest inductionHypothesis =>
      obtain ⟨first, others⟩ := List.forall_mem_cons.mp fits
      rw [encode, List.flatMap_cons, parse_encode_append first]
      exact congrArg _ (inductionHypothesis others)

end TypedFields
