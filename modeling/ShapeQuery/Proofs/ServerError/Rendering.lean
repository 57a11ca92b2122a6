import ShapeQuery.Proofs.Json.Number
import ShapeQuery.Proofs.Text.Row
import ShapeQuery.ServerError

/-!
# What the text of reported errors tells

The text of one error tells the error, whatever its message holds: behind its last opening
bracket stand the places and nothing else.  The text of several errors tells the errors if no
message holds a closing bracket, since then the first closing bracket ends the first error.
-/

namespace ShapeQuery

/-! ## Places -/

namespace Location

theorem toList_render (location : Location) :
    location.render.toList =
      Nat.toDigits 10 location.line.toNat ++ ':' :: Nat.toDigits 10 location.column.toNat := by
  simp [render]

theorem render_ne_nil (location : Location) : location.render.toList ≠ [] := by
  simp [toList_render]

theorem mem_render {location : Location} {mark : Char}
    (member : mark ∈ location.render.toList) : mark.isDigit = true ∨ mark = ':' := by
  have digit {value : Nat} (written : mark ∈ Nat.toDigits 10 value) : mark.isDigit = true :=
    Nat.isDigit_of_mem_toDigits (by decide) (by decide) written
  rw [toList_render, List.mem_append, List.mem_cons] at member
  rcases member with line | colon | column
  · exact .inl (digit line)
  · exact .inr colon
  · exact .inl (digit column)

theorem not_digit_of_follows {rest : List Char} (follows : Text.Follows [',', ' '] rest) :
    ∀ mark ∈ rest.head?, mark.isDigit = false := by
  rcases follows with rfl | ⟨after, rfl⟩
  · nofun
  · rintro mark ⟨⟩
    rfl

/-- A place is told in its row, where no digit can stand behind its column. -/
theorem told (location other : Location) :
    Text.Told [',', ' '] (fun location => location.render.toList) location other := by
  intro rest behind follows followsOther same
  simp only [toList_render, List.append_assoc, List.cons_append] at same
  have colon (tail : List Char) : ∀ mark ∈ (':' :: tail).head?, mark.isDigit = false := by
    rintro mark ⟨⟩
    rfl
  obtain ⟨lines, columns⟩ := Json.eq_of_toDigits_append (colon _) (colon _) same
  obtain ⟨columns, rests⟩ := Json.eq_of_toDigits_append (not_digit_of_follows follows)
    (not_digit_of_follows followsOther) (List.cons.inj columns).2
  obtain ⟨line, column⟩ := location
  obtain ⟨otherLine, otherColumn⟩ := other
  obtain rfl := UInt32.toNat_inj.mp lines
  obtain rfl := UInt32.toNat_inj.mp columns
  exact ⟨rfl, rests⟩

/-- Places as they stand between the brackets of an error. -/
def row (locations : List Location) : List Char :=
  [',', ' '].intercalate (locations.map fun location => location.render.toList)

theorem eq_of_row_eq {locations others : List Location} (same : row locations = row others) :
    locations = others :=
  Text.eq_of_intercalate_eq render_ne_nil (fun location _ other _ => told location other) same

theorem mem_row {locations : List Location} {mark : Char} (member : mark ∈ row locations) :
    mark.isDigit = true ∨ mark ∈ [':', ',', ' '] := by
  rcases Text.mem_of_mem_intercalate member with divides | ⟨location, _, written⟩
  · exact .inr (List.mem_cons_of_mem _ divides)
  · rcases mem_render written with digit | rfl
    · exact .inl digit
    · exact .inr List.mem_cons_self

theorem not_mem_row {mark : Char} (noDigit : mark.isDigit = false) (apart : mark ∉ [':', ',', ' '])
    (locations : List Location) : mark ∉ row locations := by
  intro member
  rcases mem_row member with digit | divides
  · cases noDigit.symm.trans digit
  · exact apart divides

end Location

/-! ## Errors -/

namespace ServerError

/-- The text of an error up to its closing bracket. -/
def unclosed (error : ServerError) : List Char :=
  error.message.toList ++ " at ".toList ++ '[' :: Location.row error.locations

theorem toList_render (error : ServerError) :
    error.render.toList = error.unclosed ++ [']'] := by
  simp [render, unclosed, Location.row, Function.comp_def]

theorem toList_renderAll (errors : List ServerError) :
    (renderAll errors).toList =
      [';', ' '].intercalate (errors.map fun error => error.render.toList) := by
  simp [renderAll, Function.comp_def]

/-- The text of one error tells the error, whatever its message holds. -/
theorem eq_of_render_eq {error other : ServerError} (same : error.render = other.render) :
    error = other := by
  have texts := congrArg String.toList same
  rw [toList_render, toList_render] at texts
  -- A message may hold opening brackets too, but the places behind it hold none.
  have bracketless (locations : List Location) : '[' ∉ Location.row locations :=
    Location.not_mem_row rfl (by decide) locations
  obtain ⟨fronts, rows⟩ := Text.eq_of_cut_last (bracketless _) (bracketless _)
    (List.append_cancel_right texts)
  obtain ⟨message, locations⟩ := error
  obtain ⟨otherMessage, otherLocations⟩ := other
  obtain rfl := String.toList_inj.mp (List.append_cancel_right fronts)
  obtain rfl := Location.eq_of_row_eq rows
  rfl

theorem not_mem_unclosed {error : ServerError} (plain : ']' ∉ error.message.toList) :
    ']' ∉ error.unclosed := by
  have places : ']' ∉ Location.row error.locations :=
    Location.not_mem_row rfl (by decide) error.locations
  simp [unclosed, plain, places]

/-- An error ends at the first closing bracket if its message holds none. -/
theorem told {error other : ServerError} (plain : ']' ∉ error.message.toList)
    (plainOther : ']' ∉ other.message.toList) (separator : List Char) :
    Text.Told separator (fun error => error.render.toList) error other := by
  intro rest behind _ _ same
  simp only [toList_render, List.append_assoc, List.singleton_append] at same
  obtain ⟨texts, rests⟩ :=
    Text.eq_of_cut_first (not_mem_unclosed plain) (not_mem_unclosed plainOther) same
  have rendered : error.render = other.render := by
    rw [← String.toList_inj, toList_render, toList_render, texts]
  exact ⟨eq_of_render_eq rendered, rests⟩

/-- Where no message holds a closing bracket, the text of several errors tells how many they are
and, of each, its message and its places in their order. -/
theorem renderAll_eq_iff {errors others : List ServerError}
    (plain : ∀ error ∈ errors, ']' ∉ error.message.toList)
    (plainOthers : ∀ error ∈ others, ']' ∉ error.message.toList) :
    renderAll errors = renderAll others ↔ errors = others := by
  constructor
  · intro same
    have rows := congrArg String.toList same
    rw [toList_renderAll, toList_renderAll] at rows
    have written (error : ServerError) : error.render.toList ≠ [] := by
      simp [toList_render]
    exact Text.eq_of_intercalate_eq written (fun error member other memberOther =>
      told (plain error member) (plainOthers other memberOther) _) rows
  · rintro rfl
    rfl

/-- Two errors, the first with a message that looks like a whole error and more. -/
def nestedErrors : List ServerError :=
  [⟨"limit at [1:2; name", [⟨3, 4⟩, ⟨5, 67⟩]⟩, ⟨"offset", []⟩]

/-- Three errors whose text is that of `nestedErrors` but for one closing bracket. -/
def separateErrors : List ServerError :=
  [⟨"limit", [⟨1, 2⟩]⟩, ⟨"name", [⟨3, 4⟩, ⟨5, 67⟩]⟩, ⟨"offset", []⟩]

theorem renderAll_eq_iff_nested :
    (∀ error ∈ nestedErrors, ']' ∉ error.message.toList) ∧
      (∀ error ∈ separateErrors, ']' ∉ error.message.toList) ∧
      renderAll nestedErrors ≠ renderAll separateErrors := by
  have plain : ∀ error ∈ nestedErrors, ']' ∉ error.message.toList := by decide
  have plainOthers : ∀ error ∈ separateErrors, ']' ∉ error.message.toList := by decide
  have different : nestedErrors ≠ separateErrors := by decide
  exact ⟨plain, plainOthers, fun same =>
    different ((renderAll_eq_iff plain plainOthers).mp same)⟩

/-- A closing bracket in a message can pass for the end of an error. -/
example :
    renderAll [⟨"limit at []; name", []⟩] = renderAll [⟨"limit", []⟩, ⟨"name", []⟩] := by
  decide

end ServerError

end ShapeQuery
