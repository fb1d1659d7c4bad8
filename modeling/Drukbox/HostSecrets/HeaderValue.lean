import Drukbox.HostSecrets.Catalog
import Drukbox.HostSecrets.RoundTrip
import Mathlib.Data.List.Induction

/-!
# Header values

A credential travels in HTTP header fields.  The programs that send one encode it as Latin-1 on one
line and raise where that is impossible; whoever reads it may leave out the white space around it.
-/

namespace Drukbox

def isLatin1 (text : String) : Bool :=
  text.toList.all fun char => char.toNat < 256

/-- A Latin-1 character that is no control character of HTTP. -/
def isFieldChar (char : Char) : Bool :=
  32 ≤ char.toNat && char.toNat < 256 && char.toNat != 127

/-- A legal HTTP field value: without control characters, and without white space around it. -/
def isFieldValue (text : List Char) : Bool :=
  text.all isFieldChar && text.head? != some ' ' && text.getLast? != some ' '

def isVisible (text : String) : Bool :=
  text.toList.all fun char => 33 ≤ char.toNat && char.toNat ≤ 126

/-- A program that sends header values: it raises for those that it cannot send. -/
structure Sender where
  sends : String → Bool
  latin1 : ∀ {text}, sends text → isLatin1 text
  oneLine : ∀ {text}, sends text → '\r' ∉ text.toList ∧ '\n' ∉ text.toList
  legal : ∀ {text}, isFieldValue text.toList → sends text

/-- What an HTTP client reads of a field value: the text without the white space around it. -/
def readField (text : String) : String :=
  String.ofList (Uuid.strip (fun char => char == ' ' || char == '\t') text.toList)

/-- What an HTTP server reads of a field value: it may keep some of the white space around it. -/
def Reads (sent read : String) : Prop :=
  ∃ before after : List Char, sent.toList = before ++ read.toList ++ after ∧
    ∀ char ∈ before ++ after, char = ' ' ∨ char = '\t'

variable {text read : String}

theorem isFieldValue_ends (legal : isFieldValue text.toList) :
    (∀ char ∈ text.toList, isFieldChar char) ∧ text.toList.head? ≠ some ' ' ∧
      text.toList.getLast? ≠ some ' ' := by
  simp only [isFieldValue, Bool.and_eq_true, bne_iff_ne, List.all_eq_true] at legal
  exact ⟨legal.1.1, legal.1.2, legal.2⟩

theorem isLatin1_of_isFieldValue (legal : isFieldValue text.toList) : isLatin1 text := by
  apply List.all_eq_true.mpr
  intro char member
  have good := (isFieldValue_ends legal).1 char member
  simp only [isFieldChar, Bool.and_eq_true] at good
  exact good.1.2

theorem isFieldValue_of_isVisible (visible : isVisible text) : isFieldValue text.toList := by
  simp only [isVisible, List.all_eq_true, Bool.and_eq_true, decide_eq_true_iff] at visible
  have solid {char : Char} (member : char ∈ text.toList) : char ≠ ' ' := by
    rintro rfl
    exact absurd (visible _ member).1 (by decide)
  simp only [isFieldValue, Bool.and_eq_true, bne_iff_ne, List.all_eq_true]
  refine ⟨⟨fun char member => ?_, fun first => ?_⟩, fun last => ?_⟩
  · obtain ⟨low, high⟩ := visible char member
    simp only [isFieldChar, Bool.and_eq_true, decide_eq_true_iff, bne_iff_ne]
    omega
  · exact solid (List.mem_of_head? first) rfl
  · exact solid (List.mem_of_getLast? last) rfl

/-- The first and the last character of a legal field value are no white space. -/
theorem solid_of_isFieldValue (legal : isFieldValue text.toList) {char : Char}
    (ends : text.toList.head? = some char ∨ text.toList.getLast? = some char) :
    char ≠ ' ' ∧ char ≠ '\t' := by
  obtain ⟨chars, first, last⟩ := isFieldValue_ends legal
  constructor
  · rintro rfl
    rcases ends with starts | ends
    · exact first starts
    · exact last ends
  · rintro rfl
    have member : '\t' ∈ text.toList := ends.elim List.mem_of_head? List.mem_of_getLast?
    exact absurd (chars _ member) (by decide)

/-- A legal field value reads as it was written. -/
theorem readField_of_isFieldValue (legal : isFieldValue text.toList) : readField text = text := by
  rw [readField, Uuid.strip_of_ends, String.ofList_toList]
  · intro char starts
    simp [solid_of_isFieldValue legal (.inl starts)]
  · intro char ends
    simp [solid_of_isFieldValue legal (.inr ends)]

theorem Reads.refl (text : String) : Reads text text :=
  ⟨[], [], by simp, by simp⟩

theorem Reads.eq_of_isFieldValue (reads : Reads text read) (legal : isFieldValue text.toList) :
    read = text := by
  obtain ⟨before, after, same, blank⟩ := reads
  have front : before = [] := by
    cases before with
    | nil => rfl
    | cons char rest =>
        have solid := solid_of_isFieldValue legal (.inl (by rw [same]; rfl : _ = some char))
        rcases blank char (by simp) with rfl | rfl
        · exact absurd rfl solid.1
        · exact absurd rfl solid.2
  have back : after = [] := by
    cases after using List.reverseRecOn with
    | nil => rfl
    | append_singleton rest char =>
        have last : text.toList.getLast? = some char := by
          rw [same, ← List.append_assoc, List.getLast?_concat]
        have solid := solid_of_isFieldValue legal (.inr last)
        rcases blank char (by simp) with rfl | rfl
        · exact absurd rfl solid.1
        · exact absurd rfl solid.2
  subst front back
  exact String.toList_inj.mp (by simpa [eq_comm] using same)

/-- Basic makes a legal field value of every value. -/
theorem isFieldValue_basic {upstream : Upstream} (basic : upstream.basicUser ≠ "")
    (value : String) : isFieldValue (upstream.credential value).toList := by
  have digits : ∀ char ∈ Base64.alphabet ++ ['='], isFieldChar char ∧ char ≠ ' ' :=
    List.all_iff_forall_prop.mp (by decide)
  have scheme : ∀ char ∈ "Basic ".toList, isFieldChar char :=
    List.all_iff_forall_prop.mp (by decide)
  obtain ⟨input, bytes⟩ : ∃ input,
      (upstream.basicUser ++ ":" ++ value).toByteArray.data.toList = input := ⟨_, rfl⟩
  have encoded : ∀ char ∈ Base64.encode input, isFieldChar char ∧ char ≠ ' ' := by
    intro char member
    rcases Base64.mem_encode member with digit | pad
    · exact digits char (List.mem_append_left _ digit)
    · exact digits char (List.mem_append_right _ (List.mem_singleton.mpr pad))
  have same : (upstream.credential value).toList = "Basic ".toList ++ Base64.encode input := by
    rw [Upstream.credential, if_pos basic, bytes]
    simp
  have filled : Base64.encode input ≠ [] := by
    intro empty
    have decoded := Base64.decode_encode input
    rw [empty] at decoded
    have none_left : input = [] := (Option.some.inj decoded).symm
    have count := congrArg List.length (bytes.trans none_left)
    simp at count
  rw [same, isFieldValue]
  simp only [Bool.and_eq_true, bne_iff_ne, List.all_eq_true, List.mem_append]
  refine ⟨⟨fun char member => member.elim (scheme char) fun digit =>
    (encoded char digit).1, ?_⟩, ?_⟩
  · rw [List.head?_append_of_ne_nil _ (by decide)]
    decide
  · rw [List.getLast?_append_of_ne_nil _ filled]
    exact fun space => (encoded ' ' (List.mem_of_getLast? space)).2 rfl

namespace Sender

/-- uvicorn's server. -/
def uvicorn : Sender where
  sends text := text.toList.all fun char => isFieldChar char || char == '\t'
  latin1 := by
    intro text sent
    refine List.all_eq_true.mpr fun char member => ?_
    rcases (Bool.or_eq_true _ _).mp (List.all_eq_true.mp sent char member) with good | tab
    · simp only [isFieldChar, Bool.and_eq_true] at good
      exact good.1.2
    · rw [beq_iff_eq.mp tab]
      decide
  oneLine := by
    intro text sent
    constructor <;> intro member <;> exact absurd (List.all_eq_true.mp sent _ member) (by decide)
  legal := by
    intro text legal
    refine List.all_eq_true.mpr fun char member => ?_
    rw [(isFieldValue_ends legal).1 char member, Bool.true_or]

/-- tornado's client. -/
def tornado : Sender where
  sends text := isLatin1 text && !text.toList.contains '\r' && !text.toList.contains '\n'
  latin1 := by
    intro text sent
    simp only [Bool.and_eq_true] at sent
    exact sent.1.1
  oneLine := by
    intro text sent
    simpa [and_assoc] using (show _ ∧ _ from
      ⟨((Bool.and_eq_true _ _).mp ((Bool.and_eq_true _ _).mp sent).1).2,
        ((Bool.and_eq_true _ _).mp sent).2⟩)
  legal := by
    intro text legal
    have plain (char : Char) (control : isFieldChar char = false) : char ∉ text.toList := by
      intro member
      rw [(isFieldValue_ends legal).1 char member] at control
      contradiction
    have return_free := plain '\r' (by decide)
    have line_free := plain '\n' (by decide)
    simp [isLatin1_of_isFieldValue legal, return_free, line_free]

end Sender

end Drukbox
