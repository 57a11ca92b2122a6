/-!
# Cuts and rows

A text that is put together can be taken apart again where it is cut in one way only: at the
first or the last of its marks.  Items that are joined by a separator stand in a row, and the row
tells its items if each of them is told from what stands behind it.
-/

namespace ShapeQuery.Text

/-! ## Cuts -/

section Cuts

variable {mark : Char} {front other back behind : List Char}

theorem takeWhile_ne_mark (absent : mark ∉ front) :
    (front ++ mark :: back).takeWhile (· != mark) = front := by
  have inside : ∀ character ∈ front, (character != mark) = true := by
    intro character member
    rw [bne_iff_ne]
    rintro rfl
    exact absent member
  rw [List.takeWhile_append_of_pos inside]
  simp

/-- A text is cut in one way at the first of its marks. -/
theorem eq_of_cut_first (absent : mark ∉ front) (absentOther : mark ∉ other)
    (same : front ++ mark :: back = other ++ mark :: behind) : front = other ∧ back = behind := by
  have fronts := congrArg (List.takeWhile (· != mark)) same
  rw [takeWhile_ne_mark absent, takeWhile_ne_mark absentOther] at fronts
  subst other
  exact ⟨rfl, (List.cons.inj (List.append_cancel_left same)).2⟩

/-- A text is cut in one way at the last of its marks. -/
theorem eq_of_cut_last (absent : mark ∉ back) (absentOther : mark ∉ behind)
    (same : front ++ mark :: back = other ++ mark :: behind) : front = other ∧ back = behind := by
  have reversed : back.reverse ++ mark :: front.reverse =
      behind.reverse ++ mark :: other.reverse := by
    simpa using congrArg List.reverse same
  obtain ⟨backs, fronts⟩ := eq_of_cut_first (by rwa [List.mem_reverse])
    (by rwa [List.mem_reverse]) reversed
  exact ⟨List.reverse_inj.mp fronts, List.reverse_inj.mp backs⟩

end Cuts

/-! ## Rows -/

section Rows

variable {α : Type} {separator : List Char} {text : α → List Char} {items others : List α}

/-- What can stand behind an item of a row: nothing, or the separator and more. -/
def Follows (separator rest : List Char) : Prop :=
  rest = [] ∨ separator <+: rest

/-- The texts of two items in their rows can agree only if the items do, and what stands behind
them. -/
def Told (separator : List Char) (text : α → List Char) (item other : α) : Prop :=
  ∀ {rest behind : List Char}, Follows separator rest → Follows separator behind →
    text item ++ rest = text other ++ behind → item = other ∧ rest = behind

/-- The items behind the first one, each with a separator before it. -/
def later (separator : List Char) (text : α → List Char) (items : List α) : List Char :=
  items.flatMap fun item => separator ++ text item

theorem later_cons (item : α) (items : List α) :
    later separator text (item :: items) =
      separator ++ (text item ++ later separator text items) := by
  rw [later, List.flatMap_cons, List.append_assoc, later]

theorem follows_later : Follows separator (later separator text items) := by
  cases items with
  | nil => exact .inl rfl
  | cons item items => exact .inr ⟨_, (later_cons item items).symm⟩

theorem intercalate_eq_later (item : α) (items : List α) :
    separator.intercalate ((item :: items).map text) =
      text item ++ later separator text items := by
  induction items generalizing item with
  | nil => simp [later]
  | cons next items induction =>
      rw [List.map_cons, List.map_cons, List.intercalate_cons_cons, ← List.map_cons,
        induction, later_cons, List.append_assoc]

theorem drop_later :
    (later separator text items).drop separator.length =
      separator.intercalate (items.map text) := by
  cases items with
  | nil => simp [later]
  | cons item items => rw [later_cons, List.drop_left, intercalate_eq_later]

theorem mem_of_mem_intercalate {mark : Char}
    (member : mark ∈ separator.intercalate (items.map text)) :
    mark ∈ separator ∨ ∃ item ∈ items, mark ∈ text item := by
  cases items with
  | nil => simp at member
  | cons item items =>
      rw [intercalate_eq_later, List.mem_append, later, List.mem_flatMap] at member
      rcases member with first | ⟨next, among, behind⟩
      · exact .inr ⟨item, List.mem_cons_self, first⟩
      · rcases List.mem_append.mp behind with divides | written
        · exact .inl divides
        · exact .inr ⟨next, List.mem_cons_of_mem _ among, written⟩

theorem eq_nil_of_intercalate_eq_nil (written : ∀ item, text item ≠ [])
    (empty : separator.intercalate (items.map text) = []) : items = [] := by
  cases items with
  | nil => rfl
  | cons item items =>
      rw [intercalate_eq_later] at empty
      exact (written item (List.append_eq_nil_iff.mp empty).1).elim

/-- A row tells its items if each of them is told from what stands behind it. -/
theorem eq_of_intercalate_eq (written : ∀ item, text item ≠ [])
    (told : ∀ item ∈ items, ∀ other ∈ others, Told separator text item other)
    (same : separator.intercalate (items.map text) = separator.intercalate (others.map text)) :
    items = others := by
  induction items generalizing others with
  | nil => exact (eq_nil_of_intercalate_eq_nil written same.symm).symm
  | cons item items induction =>
      cases others with
      | nil => exact eq_nil_of_intercalate_eq_nil written same
      | cons other others =>
          rw [intercalate_eq_later, intercalate_eq_later] at same
          obtain ⟨rfl, behind⟩ := told item List.mem_cons_self other List.mem_cons_self
            follows_later follows_later same
          -- Without their first separators the remaining items are rows themselves.
          have rows := congrArg (List.drop separator.length) behind
          rw [drop_later, drop_later] at rows
          have rest := induction (fun item member other memberOther =>
            told item (List.mem_cons_of_mem _ member) other
              (List.mem_cons_of_mem _ memberOther)) rows
          rw [rest]

end Rows

end ShapeQuery.Text
