/-! Cutting a sequence, such as the characters of a text, at every occurrence of a
separator. A separator at an end, or two in a row, leave an empty field. -/

namespace CommandShell.Text

variable {α : Type} [DecidableEq α]

/-- The fields of a sequence, in order. Without the separator it is one field. -/
def fields (separator : α) : List α → List (List α)
  | [] => [[]]
  | item :: rest =>
    if item = separator then [] :: fields separator rest
    else match fields separator rest with
      | [] => [[item]]
      | field :: later => (item :: field) :: later

def filledFields (separator : Char) (text : String) : List String :=
  ((fields separator text.toList).filter fun field => !field.isEmpty).map String.ofList

theorem fields_ne_nil (separator : α) (items : List α) : fields separator items ≠ [] := by
  cases items with
  | nil => simp [fields]
  | cons item rest =>
    unfold fields
    split
    · simp
    · split <;> simp

/-- A separator between two sequences keeps their fields apart. -/
theorem fields_append (separator : α) (first second : List α) :
    fields separator (first ++ separator :: second) =
      fields separator first ++ fields separator second := by
  induction first with
  | nil => simp [fields]
  | cons item rest ih =>
    by_cases same : item = separator
    · simp [fields, same, ih]
    · simp only [List.cons_append, fields, same, if_false, ih]
      cases found : fields separator rest with
      | nil => exact absurd found (fields_ne_nil separator rest)
      | cons field later => simp

end CommandShell.Text
