import CatalogShell.Text.Search

/-!
# Cutting texts and physical lines

A text that is put together from parts is cut into these again, if no part holds what it is cut at
(`takeWhile_dropWhile_append`, `cutAt_append`, `splitAt_append`).

`physicalLines` are the pieces of a text between its newlines, without an empty piece at the end.
They are read off a text that is put together from lines, each with a newline behind it
(`physicalLines_written_append`), and are the lines that an entry is cut into unless it has a
carriage return (`lines_eq_physicalLines`).
-/

namespace CatalogShell.Text

variable {sep : Char} {cs line piece rest : List Char} {ls : List (List Char)}

/-! ## Pieces -/

/-- The characters that satisfy `p` end where the first one that does not follows. -/
theorem takeWhile_dropWhile_append {p : Char → Bool} (h : ∀ c ∈ cs, p c = true)
    (hrest : ∀ d ∈ rest.head?, p d = false) :
    (cs ++ rest).takeWhile p = cs ∧ (cs ++ rest).dropWhile p = rest := by
  rw [List.takeWhile_append_of_pos h, List.dropWhile_append_of_pos h]
  cases rest with
  | nil => simp
  | cons d rest => simp [hrest d rfl]

theorem cutAt_append (h : sep ∉ cs) : cutAt sep (cs ++ sep :: rest) = (cs, some rest) := by
  have hne : ∀ c ∈ cs, decide (c ≠ sep) = true := fun c hc =>
    decide_eq_true fun heq => h (heq ▸ hc)
  have hends : ∀ d ∈ (sep :: rest).head?, decide (d ≠ sep) = false := by simp
  obtain ⟨htake, hdrop⟩ := takeWhile_dropWhile_append hne hends
  rw [cutAt, htake, hdrop]

theorem splitAt_ne_nil (sep : Char) (cs : List Char) : splitAt sep cs ≠ [] := by
  cases cs with
  | nil => simp [splitAt]
  | cons c cs =>
    unfold splitAt
    split
    · simp
    · split <;> simp

theorem splitAt_cons_of_ne {c : Char} (h : c ≠ sep) :
    splitAt sep (c :: cs) = (splitAt sep cs).modifyHead (c :: ·) := by
  rw [splitAt, if_neg h]
  cases hsplit : splitAt sep cs with
  | nil => exact absurd hsplit (splitAt_ne_nil sep cs)
  | cons piece pieces => rfl

theorem splitAt_of_notMem (h : sep ∉ cs) : splitAt sep cs = [cs] := by
  induction cs with
  | nil => rfl
  | cons c cs ih =>
    rw [List.mem_cons, not_or] at h
    rw [splitAt_cons_of_ne (Ne.symm h.1), ih h.2]
    rfl

theorem splitAt_append (h : sep ∉ line) :
    splitAt sep (line ++ sep :: rest) = line :: splitAt sep rest := by
  induction line with
  | nil => simp [splitAt]
  | cons c line ih =>
    rw [List.mem_cons, not_or] at h
    rw [List.cons_append, splitAt_cons_of_ne (Ne.symm h.1), ih h.2]
    rfl

/-- The pieces hold no separator, and nothing that is not in the text. -/
theorem of_mem_splitAt (h : piece ∈ splitAt sep cs) : sep ∉ piece ∧ ∀ c ∈ piece, c ∈ cs := by
  induction cs generalizing piece with
  | nil =>
    obtain rfl : piece = [] := by simpa [splitAt] using h
    simp
  | cons c cs ih =>
    by_cases hc : c = sep
    · rw [splitAt, if_pos hc, List.mem_cons] at h
      rcases h with rfl | h
      · simp
      · exact ⟨(ih h).1, fun d hd => List.mem_cons_of_mem c ((ih h).2 d hd)⟩
    · rw [splitAt_cons_of_ne hc] at h
      cases hsplit : splitAt sep cs with
      | nil => exact absurd hsplit (splitAt_ne_nil sep cs)
      | cons first pieces =>
        rw [hsplit, List.modifyHead_cons, List.mem_cons] at h
        rcases h with rfl | h
        · have hfirst := ih (hsplit ▸ List.mem_cons_self)
          simp only [List.mem_cons, not_or]
          exact ⟨⟨Ne.symm hc, hfirst.1⟩, fun d hd => hd.imp_right (hfirst.2 d)⟩
        · have hpiece := ih (hsplit ▸ List.mem_cons_of_mem first h)
          exact ⟨hpiece.1, fun d hd => List.mem_cons_of_mem c (hpiece.2 d hd)⟩

/-! ## Lines -/

/-- The pieces of a text between its newlines, without an empty last piece. -/
def physicalLines (cs : List Char) : List (List Char) :=
  if (splitAt '\n' cs).getLast? = some [] then (splitAt '\n' cs).dropLast else splitAt '\n' cs

/-- Lines, each with a newline behind it. -/
def written (ls : List (List Char)) : List Char := ls.flatMap (· ++ ['\n'])

@[simp] theorem written_nil : written [] = [] := rfl

@[simp] theorem written_cons (line : List Char) (ls : List (List Char)) :
    written (line :: ls) = line ++ '\n' :: written ls := by
  simp [written]

@[simp] theorem written_append (ls ls' : List (List Char)) :
    written (ls ++ ls') = written ls ++ written ls' := List.flatMap_append

theorem physicalLines_nil : physicalLines [] = [] := by decide

theorem physicalLines_append (h : '\n' ∉ line) :
    physicalLines (line ++ '\n' :: rest) = line :: physicalLines rest := by
  unfold physicalLines
  cases hsplit : splitAt '\n' rest with
  | nil => exact absurd hsplit (splitAt_ne_nil '\n' rest)
  | cons piece pieces =>
    rw [splitAt_append h, hsplit, List.getLast?_cons_cons]
    split <;> rfl

theorem physicalLines_of_notMem (h : '\n' ∉ cs) (hne : cs ≠ []) : physicalLines cs = [cs] := by
  rw [physicalLines, splitAt_of_notMem h, if_neg (by simpa using hne)]

theorem physicalLines_written_append (h : ∀ line ∈ ls, '\n' ∉ line) (rest : List Char) :
    physicalLines (written ls ++ rest) = ls ++ physicalLines rest := by
  induction ls with
  | nil => rfl
  | cons line ls ih =>
    rw [List.forall_mem_cons] at h
    rw [written_cons, List.append_assoc, List.cons_append, physicalLines_append h.1, ih h.2]
    rfl

theorem physicalLines_written (h : ∀ line ∈ ls, '\n' ∉ line) : physicalLines (written ls) = ls := by
  have happend := physicalLines_written_append h []
  rwa [List.append_nil, physicalLines_nil, List.append_nil] at happend

theorem notMem_of_mem_physicalLines (h : line ∈ physicalLines cs) : '\n' ∉ line := by
  unfold physicalLines at h
  split at h
  · exact (of_mem_splitAt ((List.dropLast_subset _) h)).1
  · exact (of_mem_splitAt h).1

theorem dropCarriageReturn_of_notMem (h : '\r' ∉ line) : dropCarriageReturn line = line := by
  rw [dropCarriageReturn, if_neg]
  exact fun hlast => h (List.mem_of_getLast? hlast)

/-- Without carriage returns the lines of a text are its physical lines. -/
theorem lines_eq_physicalLines (h : '\r' ∉ cs) : lines cs = physicalLines cs := by
  have hpieces : ∀ piece ∈ (splitAt '\n' cs).dropLast, dropCarriageReturn piece = id piece := by
    intro piece hpiece
    have hmem : piece ∈ splitAt '\n' cs := List.dropLast_subset _ hpiece
    exact dropCarriageReturn_of_notMem fun hreturn => h ((of_mem_splitAt hmem).2 _ hreturn)
  have hmap := List.map_congr_left hpieces
  obtain ⟨init, last, hsplit⟩ :=
    (List.eq_nil_or_concat (splitAt '\n' cs)).resolve_left (splitAt_ne_nil '\n' cs)
  rw [lines, hmap, List.map_id, physicalLines, hsplit]
  cases last with
  | nil => simp
  | cons c last => simp

end CatalogShell.Text
