import DiskQuota.Error
import DiskQuota.Proofs.Text.Hex
import Mathlib.Logic.Function.Basic

/-!
What failed, read off its message. A message is four texts one behind the other: what was being done, at
which step, the code, and the name of the code where it has one. No category's text begins another's and
no step's does, so each can be split off whatever follows it (`splitOff?_append`); and the digits of a
code are always eight. So a message reads back (`ofMessage?_message`). The headline is `messages_tell_errors`.
-/
namespace DiskQuota

/-! ## Texts that can be split off -/

namespace Text

variable {α : Type}

/-- The member of a family whose text comes first, and what follows that text. -/
def splitOff? (family : List α) (text : α → List Char) (cs : List Char) : Option (α × List Char) :=
  (family.find? fun a => (text a).isPrefixOf cs).map fun a => (a, cs.drop (text a).length)

/-- Where no text of the family begins another, each is split off whatever follows it. -/
theorem splitOff?_append {family : List α} {text : α → List Char}
    (apart : ∀ a ∈ family, ∀ b ∈ family, text a <+: text b → a = b) {a : α} (ha : a ∈ family)
    (rest : List Char) : splitOff? family text (text a ++ rest) = some (a, rest) := by
  have hprefix : text a <+: text a ++ rest := List.prefix_append _ _
  have hfind : (family.find? fun b => (text b).isPrefixOf (text a ++ rest)) = some a := by
    cases hb : family.find? fun b => (text b).isPrefixOf (text a ++ rest) with
    | none => exact absurd (List.isPrefixOf_iff_prefix.2 hprefix) (List.find?_eq_none.1 hb a ha)
    | some b =>
      have hmem : b ∈ family := List.mem_of_find?_eq_some hb
      have hbegins : text b <+: text a ++ rest := by
        simpa [List.isPrefixOf_iff_prefix] using List.find?_some hb
      -- both begin the whole, so one of the two begins the other
      rcases List.prefix_or_prefix_of_prefix hbegins hprefix with h | h
      · rw [apart b hmem a ha h]
      · rw [apart a ha b hmem h]
  rw [splitOff?, hfind, Option.map_some, List.drop_left]

end Text

/-! ## Codes -/

/-- What follows the digits of a code: its name, if it has one. -/
def Status.naming (s : Status) : String :=
  match s.name? with
  | some name => " (" ++ name ++ ")"
  | none => ""

namespace Status

/-- The digits of a code. -/
def digits (s : Status) : List Char := Text.Hex.fixed 8 s.code.toNat

theorem text_eq (s : Status) : s.text = "0x" ++ String.ofList s.digits ++ s.naming := rfl

/-- What follows the digits in the text of a code. -/
theorem text_eq_iff (s : Status) (rest : String) :
    s.text = "0x" ++ String.ofList s.digits ++ rest ↔ s.naming = rest := by
  rw [text_eq, String.append_right_inj]

theorem toList_text (s : Status) : s.text.toList = '0' :: 'x' :: (s.digits ++ s.naming.toList) := by
  have hlead : "0x".toList = ['0', 'x'] := by decide
  simp [text_eq, hlead]

theorem number?_digits (s : Status) : Text.Hex.number? s.digits = some s.code.toNat :=
  Text.Hex.number?_fixed s.code.toNat_lt

/-- The code whose text comes. -/
def ofChars? : List Char → Option Status
  | '0' :: 'x' :: cs => (Text.Hex.number? (cs.take 8)).map fun n => ⟨n.toUInt32⟩
  | _ => none

theorem ofChars?_text (s : Status) : ofChars? s.text.toList = some s := by
  have htake : (s.digits ++ s.naming.toList).take 8 = s.digits :=
    List.take_left' (Text.Hex.length_fixed 8 s.code.toNat)
  have hback : s.code.toNat.toUInt32 = s.code := UInt32.ofNat_toNat
  rw [toList_text, ofChars?, htake, number?_digits, Option.map_some, hback]

/-- The codes that have a name, each with it. -/
def symbolic : List (UInt32 × String) :=
  [(0, "S_OK"), (0x80004002, "E_NOINTERFACE"), (0x80004003, "E_POINTER"), (0x80004005, "E_FAIL"),
    (0x80070005, "E_ACCESSDENIED"), (0x80070057, "E_INVALIDARG"), (0x80045301, "FSRM_E_NOT_FOUND"),
    (0x80045303, "FSRM_E_ALREADY_EXISTS")]

theorem name?_eq (s : Status) : s.name? = symbolic.lookup s.code := by
  have hkey (k : UInt32) : (s == ⟨k⟩) = (s.code == k) := by
    obtain ⟨c⟩ := s
    rw [Bool.eq_iff_iff]
    simp
  simp [name?, named, symbolic, ok, noInterface, pointer, unspecified, accessDenied, invalidArgument,
    notFound, alreadyExists, List.lookup_cons, hkey]

/-- The digits that a code is written with: eight of them, in lower case, that write the code, and after
them a name in parentheses exactly if that is the name of the code. -/
structure Shown (s : Status) (digits : List Char) : Prop where
  eight : digits.length = 8
  lower : ∀ c ∈ digits, Text.Hex.isLower c = true
  value : Text.Hex.number? digits = some s.code.toNat
  known : s.name? = symbolic.lookup s.code
  named : ∀ name, s.name? = some name ↔
    s.text = "0x" ++ String.ofList digits ++ (" (" ++ name ++ ")")
  unnamed : s.name? = none ↔ s.text = "0x" ++ String.ofList digits

/-- A name is told by what follows the digits, which is nothing where there is none. -/
theorem naming_eq_iff (s : Status) (name : String) :
    s.naming = " (" ++ name ++ ")" ↔ s.name? = some name := by
  cases h : s.name? with
  | none => simp [naming, h, ← String.toList_inj]
  | some other => simp [naming, h]

theorem naming_eq_empty_iff (s : Status) : s.naming = "" ↔ s.name? = none := by
  cases h : s.name? with
  | none => simp [naming, h]
  | some name => simp [naming, h]

theorem shown_digits (s : Status) : s.Shown s.digits where
  eight := Text.Hex.length_fixed 8 s.code.toNat
  lower _ hc := Text.Hex.isLower_of_mem_fixed hc
  value := s.number?_digits
  known := s.name?_eq
  named name := by
    rw [text_eq_iff, naming_eq_iff]
  unnamed := by
    rw [← naming_eq_empty_iff, ← text_eq_iff, String.append_empty]

end Status

/-! ## Categories and steps -/

/-- All categories. -/
def Category.all : List Category := [.acquisition, .recordResolution, .mutation, .read]

theorem Category.mem_all (c : Category) : c ∈ all := by cases c <;> decide

/-- The words that open a message. -/
def Category.opening (c : Category) : List Char := c.text.toList ++ " failed while ".toList

theorem Category.opening_apart :
    ∀ a ∈ all, ∀ b ∈ all, opening a <+: opening b → a = b := by decide

/-- All steps. -/
def Step.all : List Step :=
  [.resolveManagerClass, .resolveManagerInterface, .initializeContext, .instantiateSession,
    .createRecord, .getRecord, .setLimit, .commit, .readLimit, .readUsed]

theorem Step.mem_all (s : Step) : s ∈ all := by cases s <;> decide

/-- What a step is called where it is told. -/
def Step.wording : Step → String
  | resolveManagerClass => "resolving quota manager class id"
  | resolveManagerInterface => "resolving quota manager interface id"
  | initializeContext => "initializing subsystem context"
  | instantiateSession => "instantiating quota manager"
  | createRecord => "creating quota record"
  | getRecord => "getting quota record"
  | setLimit => "setting quota limit"
  | commit => "committing quota record"
  | readLimit => "reading quota limit"
  | readUsed => "reading quota used"

theorem Step.text_eq (s : Step) : s.text = s.wording := by cases s <;> rfl

/-- The words that name the step in a message. -/
def Step.naming (s : Step) : List Char := s.text.toList ++ ": ".toList

theorem Step.naming_apart : ∀ a ∈ all, ∀ b ∈ all, naming a <+: naming b → a = b := by decide

/-! ## Messages -/

namespace StepError

theorem toList_message (e : StepError) :
    e.message.toList = e.category.opening ++ (e.step.naming ++ e.code.text.toList) := by
  simp [message, Category.opening, Step.naming]

/-- The error whose message it is. -/
def ofMessage? (message : String) : Option StepError := do
  let (category, cs) ← Text.splitOff? Category.all Category.opening message.toList
  let (step, cs) ← Text.splitOff? Step.all Step.naming cs
  let code ← Status.ofChars? cs
  return ⟨category, step, code⟩

/-- **A message reads back**, whatever the category, the step and the code are. -/
theorem ofMessage?_message (e : StepError) : ofMessage? e.message = some e := by
  have hcategory := Text.splitOff?_append Category.opening_apart (Category.mem_all e.category)
    (e.step.naming ++ e.code.text.toList)
  have hstep := Text.splitOff?_append Step.naming_apart (Step.mem_all e.step) e.code.text.toList
  have hcode := Status.ofChars?_text e.code
  simp [ofMessage?, toList_message, hcategory, hstep, hcode]

theorem message_injective : Function.Injective message := by
  intro e e' h
  have he := ofMessage?_message e
  rw [h, ofMessage?_message e'] at he
  exact (Option.some.inj he).symm

end StepError

/-- The message of a failed step is told whole behind what kind of error it is. -/
theorem Error.message_quota_injective : Function.Injective fun e : StepError => (Error.quota e).message := by
  intro e e' h
  have hmessage : "Quota error: " ++ e.message = "Quota error: " ++ e'.message := h
  exact StepError.message_injective ((String.append_right_inj _).1 hmessage)

/-- **Messages tell errors.** The category, the step and the code of an error are read back from its
message, also where category and step disagree. So no two errors have the same message, alone or as
quota errors among all. The code stands at the end of the message with eight digits in lower case that
write it, and its name in parentheses exactly if it has one. -/
theorem messages_tell_errors :
    (∀ e : StepError, StepError.ofMessage? e.message = some e) ∧
    (∀ e e' : StepError, e.message = e'.message ↔ e = e') ∧
    (∀ e e' : StepError, (Error.quota e).message = (Error.quota e').message ↔ e = e') ∧
    ∀ e : StepError, ∃ digits, e.code.Shown digits ∧
      e.message = e.category.text ++ " failed while " ++ e.step.wording ++ ": " ++ e.code.text := by
  refine ⟨StepError.ofMessage?_message, ?_, ?_, ?_⟩
  · intro e e'
    exact StepError.message_injective.eq_iff
  · intro e e'
    exact Error.message_quota_injective.eq_iff
  · intro e
    exact ⟨e.code.digits, e.code.shown_digits, by rw [← e.step.text_eq]; rfl⟩

end DiskQuota
