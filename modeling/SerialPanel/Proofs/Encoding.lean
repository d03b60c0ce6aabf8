import Mathlib.Data.List.Forall2
import SerialPanel.Instruction
namespace SerialPanel

theorem mapM_ok_iff {f : α → Except ε β} {members : List α} {results : List β} :
    members.mapM f = .ok results ↔
      List.Forall₂ (fun member result => f member = .ok result) members results := by
  induction members generalizing results with
  | nil =>
    constructor
    · intro done
      cases done
      exact .nil
    · intro related
      cases related
      rfl
  | cons member later ih =>
    rw [List.mapM_cons]
    constructor
    · intro done
      cases first : f member with
      | error fault => simp [first, bind, Except.bind] at done
      | ok result =>
        cases rest : later.mapM f with
        | error fault => simp [first, rest, bind, Except.bind] at done
        | ok others =>
          simp only [first, rest, bind, Except.bind, pure, Except.pure, Except.ok.injEq] at done
          subst done
          exact .cons first (ih.mp rest)
    · intro related
      cases related with
      | cons first rest => simp [first, ih.mpr rest, bind, Except.bind, pure, Except.pure]

theorem mapM_error {f : α → Except ε β} {members : List α} {fault : ε}
    (failed : members.mapM f = .error fault) : ∃ member ∈ members, f member = .error fault := by
  induction members with
  | nil => cases failed
  | cons member later ih =>
    rw [List.mapM_cons] at failed
    cases first : f member with
    | error other =>
      simp only [first, bind, Except.bind, Except.error.injEq] at failed
      exact ⟨member, List.mem_cons_self, by rw [first, failed]⟩
    | ok result =>
      cases rest : later.mapM f with
      | error other =>
        simp only [first, rest, bind, Except.bind, Except.error.injEq] at failed
        subst failed
        obtain ⟨found, inside, refused⟩ := ih rest
        exact ⟨found, List.mem_cons_of_mem _ inside, refused⟩
      | ok others => simp [first, rest, bind, Except.bind, pure, Except.pure] at failed

theorem mapM_refused {f : α → Except ε β} {before after : List α} {member : α} {fault : ε}
    (passed : ∀ earlier ∈ before, ∃ result, f earlier = .ok result) (refused : f member = .error fault) :
    (before ++ member :: after).mapM f = .error fault := by
  induction before with
  | nil =>
    rw [List.nil_append, List.mapM_cons, refused]
    rfl
  | cons earlier later ih =>
    obtain ⟨⟨result, first⟩, rest⟩ := List.forall_mem_cons.mp passed
    rw [List.cons_append, List.mapM_cons, first, ih rest]
    rfl

theorem mapM_succeeds_iff {f : α → Except ε β} {members : List α} :
    (∃ results, members.mapM f = .ok results) ↔ ∀ member ∈ members, ∃ result, f member = .ok result := by
  constructor
  · rintro ⟨results, done⟩
    have related := mapM_ok_iff.mp done
    clear done
    induction related with
    | nil => simp
    | cons first _ ih =>
      intro member inside
      rcases List.mem_cons.mp inside with rfl | later
      · exact ⟨_, first⟩
      · exact ih member later
  · intro each
    cases done : members.mapM f with
    | ok results => exact ⟨results, rfl⟩
    | error fault =>
      obtain ⟨member, inside, refused⟩ := mapM_error done
      obtain ⟨result, accepted⟩ := each member inside
      rw [refused] at accepted
      cases accepted

namespace Field

def Fits : Field → Prop
  | .unsigned width value => 0 ≤ value ∧ value ≤ width.max
  | .signed width value => -(width.half : Int) ≤ value ∧ value < width.half
  | .text _ => True

def bytes : Field → Bytes
  | .unsigned width value => bigEndian width.size value.toNat
  | .signed width value => bigEndian width.size (value % (2 * width.half : Nat)).toNat
  | .text words => utf8 words

theorem encode_fits {field : Field} (fits : field.Fits) : field.encode = .ok field.bytes := by
  cases field with
  | unsigned width value => exact if_pos fits
  | signed width value => exact if_pos fits
  | text words => rfl

theorem encode_overflow {field : Field} (unfit : ¬field.Fits) :
    ∃ width value, field.encode = .error (.fieldOverflow width value) := by
  cases field with
  | unsigned width value => exact ⟨width, value, if_neg unfit⟩
  | signed width value => exact ⟨width, value, if_neg unfit⟩
  | text words => exact absurd trivial unfit

theorem encode_ok_iff {field : Field} {content : Bytes} :
    field.encode = .ok content ↔ field.Fits ∧ content = field.bytes := by
  by_cases fits : field.Fits
  · rw [encode_fits fits, Except.ok.injEq, eq_comm]
    simp [fits]
  · obtain ⟨width, value, refused⟩ := encode_overflow fits
    simp [refused, fits]

end Field

theorem encodeFields_ok_iff {fields : List Field} {content : Bytes} :
    encodeFields fields = .ok content ↔
      (∀ field ∈ fields, field.Fits) ∧ content = fields.flatMap Field.bytes := by
  have blocks : ∀ parts : List Bytes, fields.mapM Field.encode = .ok parts ↔
      (∀ field ∈ fields, field.Fits) ∧ parts = fields.map Field.bytes := by
    intro parts
    simp only [mapM_ok_iff, Field.encode_ok_iff]
    induction fields generalizing parts with
    | nil => simp
    | cons field later ih => simp [List.forall₂_cons_left_iff, ih]; tauto
  unfold encodeFields
  cases done : fields.mapM Field.encode with
  | ok parts =>
    obtain ⟨fit, rfl⟩ := (blocks parts).mp done
    simp only [bind, Except.bind, pure, Except.pure, Except.ok.injEq]
    rw [List.flatMap_def, eq_comm]
    exact (and_iff_right fit).symm
  | error fault =>
    have unfit : ¬∀ field ∈ fields, field.Fits := by
      intro fit
      have made := (blocks _).mpr ⟨fit, rfl⟩
      rw [done] at made
      cases made
    simp [bind, Except.bind, unfit]

theorem encodeFields_error {fields : List Field} {fault : Fault}
    (failed : encodeFields fields = .error fault) : ∃ width value, fault = .fieldOverflow width value := by
  unfold encodeFields at failed
  cases done : fields.mapM Field.encode with
  | ok parts => simp [done, bind, Except.bind, pure, Except.pure] at failed
  | error other =>
    simp only [done, bind, Except.bind, Except.error.injEq] at failed
    subst failed
    obtain ⟨field, _, refused⟩ := mapM_error done
    have unfit : ¬field.Fits := fun fits => by rw [Field.encode_fits fits] at refused; cases refused
    obtain ⟨width, value, overflow⟩ := Field.encode_overflow unfit
    rw [overflow] at refused
    cases refused
    exact ⟨width, value, rfl⟩

-- The first field that does not fit decides.
theorem encodeFields_refused {before after : List Field} {field : Field} {fault : Fault}
    (fit : ∀ earlier ∈ before, earlier.Fits) (refused : field.encode = .error fault) :
    encodeFields (before ++ field :: after) = .error fault := by
  have stopped : (before ++ field :: after).mapM Field.encode = .error fault :=
    mapM_refused (fun earlier inside => ⟨_, Field.encode_fits (fit earlier inside)⟩) refused
  unfold encodeFields
  rw [stopped]
  rfl

namespace Instruction

@[simp] theorem byteField_fits (byte : UInt8) : (byteField byte).Fits := by
  have := byte.toNat_lt
  simp only [byteField, Field.Fits, FieldWidth.max]
  omega

@[simp] theorem wordField_fits (word : UInt16) : (wordField word).Fits := by
  have := word.toNat_lt
  simp only [wordField, Field.Fits, FieldWidth.max]
  omega

@[simp] theorem colorField_fits (color : Color) : (colorField color).Fits := wordField_fits color.value

@[simp] theorem text_fits (words : String) : (Field.text words).Fits := trivial

@[simp] theorem coordinate_fits (value : Int) : (coordinate value).Fits ↔ 0 ≤ value ∧ value ≤ 0xFFFF := Iff.rfl

def Carries (mode : NumberMode) (width : FieldWidth) (value : Int) : Prop :=
  if mode.signed then -(width.half : Int) ≤ value ∧ value < width.half
  else 0 ≤ value ∧ value ≤ width.max

@[simp] theorem valueField_fits (mode : NumberMode) (width : FieldWidth) (value : Int) :
    (valueField mode width value).Fits ↔ Carries mode width value := by
  unfold valueField Carries
  split <;> rfl

theorem encode_ok_iff {instruction : Instruction} {content : Bytes} :
    instruction.encode = .ok content ↔
      (∀ field ∈ instruction.fields, field.Fits) ∧ content = instruction.fields.flatMap Field.bytes :=
  encodeFields_ok_iff

theorem encode_error {instruction : Instruction} {fault : Fault}
    (failed : instruction.encode = .error fault) : ∃ width value, fault = .fieldOverflow width value :=
  encodeFields_error failed

end Instruction

end SerialPanel
