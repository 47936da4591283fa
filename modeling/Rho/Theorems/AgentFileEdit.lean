import Rho.Desktop.AgentFile
import Rho.Lib.Fallible

/-!
# Where an accepted edit stands

The offsets of a proposal are UTF-16 units. An edit that is calculated stands at its offsets, can be taken back from them, and is
refused when an offset is no boundary between characters.
-/

namespace Rho

open Fallible

/-- The UTF-16 code units of a character. -/
def charUnits (c : Char) : List Nat :=
  if 0x10000 ≤ c.toNat then [0xD800 + (c.toNat - 0x10000) / 0x400, 0xDC00 + (c.toNat - 0x10000) % 0x400] else [c.toNat]

/-- `encode_utf16`. -/
def utf16Units (text : List Char) : List Nat := text.flatMap charUnits

/-- The loop of `utf16_offset_to_byte_index` over the characters that are left. -/
def byteIndexLoop (offset : Nat) : List Char → Nat → Nat → Option Nat
  | [], byteIndex, utf16Offset => if utf16Offset = offset then some byteIndex else none
  | c :: rest, byteIndex, utf16Offset =>
    if utf16Offset = offset then some byteIndex
    else if offset < utf16Offset + lenUtf16 c then none
    else byteIndexLoop offset rest (byteIndex + c.utf8Size) (utf16Offset + lenUtf16 c)

def utf16OffsetToByteIndex (content : List Char) (offset : Nat) : Option Nat :=
  if offset = 0 then some 0 else byteIndexLoop offset content 0 0

/-- What the proposal takes out of the content. -/
def PersistedAgentFileProposal.taken (proposal : PersistedAgentFileProposal) : String :=
  if proposal.operation = "replace_selection" then (proposal.editorContext.bind (·.selectionText)).getD "" else ""

/-- The edit stands between its offsets, and taking it back from there gives the content before it. -/
structure EditAt (before content inserted taken : List Char) (start stop : Nat) : Prop where
  inRange : start ≤ stop ∧ stop ≤ (utf16Units content).length
  slice : ((utf16Units content).take stop).drop start = utf16Units inserted
  undone : (utf16Units content).take start ++ utf16Units taken ++ (utf16Units content).drop stop = utf16Units before

/-- The offset is the length of some characters at the start of the content. -/
def Boundary (content : List Char) (offset : Nat) : Prop := ∃ front rest, content = front ++ rest ∧ (utf16Units front).length = offset

namespace AgentFileEditAux

theorem utf16Units_append (l l' : List Char) : utf16Units (l ++ l') = utf16Units l ++ utf16Units l' := List.flatMap_append

theorem length_charUnits (c : Char) : (charUnits c).length = lenUtf16 c := by
  unfold charUnits lenUtf16
  split <;> rfl

theorem length_utf16Units (l : List Char) : (utf16Units l).length = utf16Length l := by
  rw [utf16Units, List.length_flatMap, utf16Length]
  exact congrArg List.sum (List.map_congr_left fun c _ => length_charUnits c)

theorem lenUtf16_pos (c : Char) : 0 < lenUtf16 c := by
  unfold lenUtf16
  split <;> decide

/-- The units of a text start with those of its first character only. -/
theorem charUnits_append_inj {c d : Char} {x y : List Nat} (h : charUnits c ++ x = charUnits d ++ y) : c = d ∧ x = y := by
  have hc := c.valid
  have hd := d.valid
  have hsame : c.toNat = d.toNat → c = d := fun h => Char.ext (UInt32.toNat_inj.mp h)
  simp only [UInt32.isValidChar, Nat.isValidChar] at hc hd
  change c.toNat < _ ∨ _ < c.toNat ∧ c.toNat < _ at hc
  change d.toNat < _ ∨ _ < d.toNat ∧ d.toNat < _ at hd
  unfold charUnits at h
  split at h <;> split at h
  · simp only [List.cons_append, List.nil_append, List.cons.injEq] at h
    exact ⟨hsame (by omega), h.2.2⟩
  · simp only [List.cons_append, List.nil_append, List.cons.injEq] at h
    omega
  · simp only [List.cons_append, List.nil_append, List.cons.injEq] at h
    omega
  · simp only [List.cons_append, List.nil_append, List.cons.injEq] at h
    exact ⟨hsame h.1, h.2⟩

theorem charUnits_ne_nil (c : Char) : charUnits c ≠ [] := by
  unfold charUnits
  split <;> exact List.cons_ne_nil _ _

/-- A text is known by its units. -/
theorem utf16Units_inj {l l' : List Char} (h : utf16Units l = utf16Units l') : l = l' := by
  induction l generalizing l' with
  | nil =>
    cases l' with
    | nil => rfl
    | cons d l' => exact absurd (List.append_eq_nil_iff.mp h.symm).1 (charUnits_ne_nil d)
  | cons c l ih =>
    cases l' with
    | nil => exact absurd (List.append_eq_nil_iff.mp h).1 (charUnits_ne_nil c)
    | cons d l' =>
      obtain ⟨rfl, hrest⟩ := charUnits_append_inj h
      rw [ih hrest]

/-- The index of an offset is that of the characters before it. -/
theorem utf16OffsetToIndex_append (front rest : List Char) : utf16OffsetToIndex (front ++ rest) (utf16Length front) = some front.length := by
  induction front with
  | nil => cases rest <;> rfl
  | cons c front ih =>
    have hlength : utf16Length (c :: front) = lenUtf16 c + utf16Length front := rfl
    have hpos := lenUtf16_pos c
    obtain ⟨n, hn⟩ := Nat.exists_eq_succ_of_ne_zero (show utf16Length (c :: front) ≠ 0 by omega)
    rw [List.cons_append, hn, utf16OffsetToIndex, if_neg (by omega), show n + 1 - lenUtf16 c = utf16Length front by omega, ih]
    rfl

theorem boundary_of_index {content : List Char} {offset i : Nat} (h : utf16OffsetToIndex content offset = some i) :
    i ≤ content.length ∧ utf16Length (content.take i) = offset := by
  induction content generalizing offset i with
  | nil =>
    cases offset with
    | zero =>
      cases h
      exact ⟨Nat.le_refl _, rfl⟩
    | succ n => cases h
  | cons c rest ih =>
    cases offset with
    | zero =>
      cases h
      exact ⟨Nat.zero_le _, rfl⟩
    | succ n =>
      rw [utf16OffsetToIndex] at h
      split at h
      · cases h
      · obtain ⟨j, hj, rfl⟩ := Option.map_eq_some_iff.mp h
        obtain ⟨hle, hlength⟩ := ih hj
        refine ⟨Nat.succ_le_succ hle, ?_⟩
        rw [List.take_succ_cons, show utf16Length (c :: rest.take j) = lenUtf16 c + utf16Length (rest.take j) from rfl, hlength]
        omega

/-- An offset has an index exactly when it is a boundary. -/
theorem index_none_iff (content : List Char) (offset : Nat) :
    utf16OffsetToIndex content offset = none ↔ ¬ Boundary content offset := by
  constructor
  · rintro hnone ⟨front, rest, rfl, hlength⟩
    rw [← hlength, length_utf16Units, utf16OffsetToIndex_append] at hnone
    cases hnone
  · intro hnot
    cases hindex : utf16OffsetToIndex content offset with
    | none => rfl
    | some i =>
      refine absurd ⟨content.take i, content.drop i, (List.take_append_drop i content).symm, ?_⟩ hnot
      rw [length_utf16Units, (boundary_of_index hindex).2]

theorem byteIndexLoop_eq (offset : Nat) (l : List Char) (b u : Nat) (hle : u ≤ offset) :
    byteIndexLoop offset l b u = (utf16OffsetToIndex l (offset - u)).map (fun i => b + ((l.take i).map Char.utf8Size).sum) := by
  induction l generalizing b u with
  | nil =>
    unfold byteIndexLoop
    split
    · next heq => simp [heq, utf16OffsetToIndex]
    · next hne =>
      obtain ⟨n, hn⟩ := Nat.exists_eq_succ_of_ne_zero (show offset - u ≠ 0 by omega)
      rw [hn]
      rfl
  | cons c rest ih =>
    unfold byteIndexLoop
    split
    · next heq => simp [heq, utf16OffsetToIndex]
    · next hne =>
      obtain ⟨n, hn⟩ := Nat.exists_eq_succ_of_ne_zero (show offset - u ≠ 0 by omega)
      rw [hn, utf16OffsetToIndex]
      by_cases hinside : offset < u + lenUtf16 c
      · rw [if_pos hinside, if_pos (by omega)]
        rfl
      · rw [if_neg hinside, if_neg (by omega), ih _ _ (by omega), show n + 1 - lenUtf16 c = offset - (u + lenUtf16 c) by omega,
          Option.map_map]
        congr 1
        funext i
        simp only [Function.comp_apply, List.take_succ_cons, List.map_cons, List.sum_cons, Nat.add_assoc]

/-- The byte index of an offset is the size of the characters before it. -/
theorem byteIndex_eq (content : List Char) (offset : Nat) : utf16OffsetToByteIndex content offset =
      (utf16OffsetToIndex content offset).map (fun i => ((content.take i).map Char.utf8Size).sum) := by
  unfold utf16OffsetToByteIndex
  split
  · next h => simp [h, utf16OffsetToIndex]
  · rw [byteIndexLoop_eq offset content 0 0 (Nat.zero_le _)]
    simp

variable {message : String} {proposal : PersistedAgentFileProposal} {start : Nat} {before : String}

theorem of_ensure {condition : Bool} {a : Unit} (h : ensure condition message = .ok a) : condition = true := by
  unfold ensure at h
  split at h
  · assumption
  · cases h

theorem of_orError {α : Type} {value : Option α} {a : α} (h : orError value message = .ok a) : value = some a := by
  unfold orError at h
  split at h
  · rw [Except.ok.inj h]
  · cases h

/-- The content is cut at the two boundaries, and the edit put between. -/
theorem edit_parts (front taken rest inserted : List Char) :
    EditAt (front ++ taken ++ rest) (front ++ inserted ++ rest) inserted taken (utf16Length front)
      (utf16Length front + utf16Length inserted) := by
  have hafter : (utf16Units front ++ utf16Units inserted ++ utf16Units rest).drop
      ((utf16Units front).length + (utf16Units inserted).length) = utf16Units rest := by
    rw [← List.length_append, List.drop_left]
  rw [← length_utf16Units, ← length_utf16Units]
  refine ⟨⟨Nat.le_add_right _ _, ?_⟩, ?_, ?_⟩
  · rw [utf16Units_append, utf16Units_append, List.length_append, List.length_append]
    exact Nat.le_add_right _ _
  · rw [utf16Units_append, utf16Units_append, ← List.length_append, List.take_left, List.drop_left]
  · rw [utf16Units_append, utf16Units_append, hafter, List.append_assoc (utf16Units front), List.take_left, utf16Units_append,
      utf16Units_append]

/-- An insertion at the cursor takes nothing out. -/
theorem insert_at_cursor_range {context : EditorContext} {finish : Nat}
    (hvalid : validatePersistedAgentFileProposalStructure proposal = .ok ()) (hinsert : proposal.operation = "insert_at_cursor")
    (hcontext : proposal.editorContext = some context) (hstart : context.selectionStart = some start)
    (hfinish : context.selectionEnd = some finish) : finish = start := by
  unfold validatePersistedAgentFileProposalStructure at hvalid
  rw [hinsert, if_neg (by decide), hcontext] at hvalid
  obtain ⟨_, hcontext', hvalid⟩ := bind_eq_ok hvalid
  cases of_orError hcontext'
  obtain ⟨_, -, hvalid⟩ := bind_eq_ok hvalid
  obtain ⟨_, hstart', hvalid⟩ := bind_eq_ok hvalid
  obtain ⟨_, hfinish', hvalid⟩ := bind_eq_ok hvalid
  obtain ⟨_, -, hvalid⟩ := bind_eq_ok hvalid
  rw [hstart] at hstart'
  rw [hfinish] at hfinish'
  cases of_orError hstart'
  cases of_orError hfinish'
  rw [if_neg (by decide)] at hvalid
  exact of_decide_eq_true (of_ensure hvalid)

/-- An edit of a range is calculated from two offsets that have an index. -/
theorem range_of_ok {edit : String × Nat × Nat}
    (hrange : proposal.operation = "replace_selection" ∨ proposal.operation = "insert_at_cursor")
    (h : calculatePersistedAgentFileEdit proposal before = .ok edit) :
    ∃ context start finish i j, proposal.editorContext = some context ∧ context.selectionStart = some start ∧
      context.selectionEnd = some finish ∧ utf16OffsetToIndex before.toList start = some i ∧
      utf16OffsetToIndex before.toList finish = some j ∧ (proposal.operation = "replace_selection" →
        i < j ∧ (before.toList.take j).drop i = (context.selectionText.getD "").toList) ∧
      edit = (String.ofList (before.toList.take i ++ proposal.content.toList ++ before.toList.drop j), start,
        start + utf16Length proposal.content.toList) := by
  unfold calculatePersistedAgentFileEdit at h
  rw [if_neg (by rcases hrange with h | h <;> rw [h] <;> decide), if_neg (by rcases hrange with h | h <;> rw [h] <;> decide),
    if_pos hrange] at h
  obtain ⟨context, hcontext, h⟩ := bind_eq_ok h
  obtain ⟨_, -, h⟩ := bind_eq_ok h
  obtain ⟨start, hstart, h⟩ := bind_eq_ok h
  obtain ⟨finish, hfinish, h⟩ := bind_eq_ok h
  obtain ⟨_, -, h⟩ := bind_eq_ok h
  obtain ⟨i, hi, h⟩ := bind_eq_ok h
  obtain ⟨j, hj, h⟩ := bind_eq_ok h
  refine ⟨context, start, finish, i, j, of_orError hcontext, of_orError hstart, of_orError hfinish, of_orError hi, of_orError hj, ?_⟩
  split at h
  · obtain ⟨_, hselection, h⟩ := bind_eq_ok h
    cases h
    have hselection := of_ensure hselection
    simp only [Bool.and_eq_true, decide_eq_true_eq] at hselection
    exact ⟨fun _ => hselection, rfl⟩
  · next hinsert =>
    obtain ⟨_, -, h⟩ := bind_eq_ok h
    cases h
    exact ⟨fun hreplace => absurd hreplace hinsert, rfl⟩

/-- An edit that is calculated puts its text between two parts of the content, in the place of what it takes out. -/
theorem edit_of_ok {content : String} {stop : Nat} (hvalid : validatePersistedAgentFileProposalStructure proposal = .ok ())
    (h : calculatePersistedAgentFileEdit proposal before = .ok (content, start, stop)) :
    EditAt before.toList content.toList proposal.content.toList proposal.taken.toList start stop := by
  unfold PersistedAgentFileProposal.taken
  by_cases hrange : proposal.operation = "replace_selection" ∨ proposal.operation = "insert_at_cursor"
  · obtain ⟨context, start', finish, i, j, hcontext, hstart, hfinish, hi, hj, hselection, hedit⟩ := range_of_ok hrange h
    cases hedit
    rw [String.toList_ofList, ← (boundary_of_index hi).2]
    -- the content is cut into what is before the start, between the offsets and after the end
    have hcut : ∀ taken : List Char, i ≤ j → (before.toList.take j).drop i = taken →
        before.toList.take i ++ taken ++ before.toList.drop j = before.toList := by
      rintro taken hij rfl
      have hfront : before.toList.take i ++ (before.toList.take j).drop i = before.toList.take j := by
        rw [← Nat.min_eq_left hij, ← List.take_take, Nat.min_eq_left hij, List.take_append_drop]
      rw [hfront, List.take_append_drop]
    rcases hrange with hreplace | hinsert
    · obtain ⟨hij, hselected⟩ := hselection hreplace
      have hparts := edit_parts (before.toList.take i) (context.selectionText.getD "").toList (before.toList.drop j)
        proposal.content.toList
      rw [hcut _ hij.le hselected] at hparts
      rw [if_pos hreplace, hcontext]
      exact hparts
    · cases insert_at_cursor_range hvalid hinsert hcontext hstart hfinish
      cases hi.symm.trans hj
      have hparts := edit_parts (before.toList.take i) [] (before.toList.drop i) proposal.content.toList
      rw [hcut [] (Nat.le_refl i) List.drop_take_self] at hparts
      rw [if_neg (by rw [hinsert]; decide)]
      exact hparts
  · rw [not_or] at hrange
    rw [if_neg hrange.1]
    unfold calculatePersistedAgentFileEdit at h
    split at h
    · obtain ⟨_, hempty, h⟩ := bind_eq_ok h
      cases h
      have hbefore : before = "" := String.isEmpty_iff.mp (of_ensure hempty)
      have hparts := edit_parts [] [] [] proposal.content.toList
      simp only [List.append_nil, List.nil_append, show utf16Length [] = 0 from rfl, Nat.zero_add] at hparts
      rw [hbefore]
      exact hparts
    split at h
    · cases h
      have hparts := edit_parts before.toList [] [] proposal.content.toList
      rw [List.append_nil, List.append_nil, List.append_nil] at hparts
      rw [String.toList_append]
      exact hparts
    · rw [if_neg (by simp [hrange])] at h
      cases h

end AgentFileEditAux

open AgentFileEditAux

end Rho
