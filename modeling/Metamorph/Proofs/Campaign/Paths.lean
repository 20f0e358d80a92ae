import Mathlib
import Metamorph.Campaign.Record

/-! # The paths of records

Records are the log of findings and the four files of every round. Different rounds have different
folders, also where their numbers take more than four digits, and no two records have one path. -/

namespace Metamorph

/-- Whatever a folder is, the paths inside it go on from one text. -/
theorem exists_inside_eq (folder : String) : ∃ root, ∀ name, inside folder name = root ++ name := by
  by_cases whole : (folder.isEmpty || folder.endsWith "/") = true
  · exact ⟨folder, fun name => by rw [inside, if_pos whole]⟩
  · exact ⟨folder ++ "/", fun name => by rw [inside, if_neg whole]⟩

/-- A folder whose name goes on with a slash is one whose path does not end in one. -/
theorem inside_eq {folder : String} {c : Char} (last : folder.toList.getLast? = some c)
    (differs : c ≠ '/') (name : String) : inside folder name = folder ++ "/" ++ name := by
  have nonempty : folder.isEmpty = false := by
    rw [Bool.eq_false_iff, ne_eq, String.isEmpty_iff]
    rintro rfl
    cases last
  have unended : folder.endsWith "/" = false := by
    rw [← String.endsWith_toSlice, String.Slice.endsWith_string_eq_false_iff,
      String.copy_toSlice]
    rintro ⟨front, whole⟩
    rw [← whole, List.getLast?_append_of_ne_nil _ (by decide)] at last
    exact differs (Option.some.inj last).symm
  rw [inside, nonempty, unended]
  rfl

/-! ## Names of rounds -/

theorem ofDigitChars_zeros (count : Nat) (digits : List Char) :
    Nat.ofDigitChars 10 (List.replicate count '0' ++ digits) 0 =
      Nat.ofDigitChars 10 digits 0 := by
  induction count with
  | zero => rfl
  | succ count ih => simpa [List.replicate_succ, Nat.ofDigitChars_cons] using ih

theorem roundName_injective : Function.Injective roundName := by
  intro number other same
  have texts := congrArg String.toList same
  simp only [roundName, String.toList_append, String.toList_ofList,
    List.append_cancel_left_eq] at texts
  have value := congrArg (Nat.ofDigitChars 10 · 0) texts
  simpa only [ofDigitChars_zeros, Nat.ofDigitChars_ten_toDigits] using value

/-- A name of a round is a word and digits. -/
theorem toList_roundName (number : Nat) : ∃ digits, digits ≠ [] ∧
    (∀ c ∈ digits, c.isDigit = true) ∧ (roundName number).toList = "bundle_".toList ++ digits := by
  let digits := Nat.toDigits 10 number
  refine ⟨List.replicate (4 - digits.length) '0' ++ digits, ?_, ?_, ?_⟩
  · simp [digits, Nat.toDigits_ne_nil]
  · intro c member
    obtain zero | digit := List.mem_append.mp member
    · rw [List.eq_of_mem_replicate zero]
      decide
    · exact Nat.isDigit_of_mem_toDigits (by decide) (by decide) digit
  · simp only [roundName, String.toList_append, String.toList_ofList, digits]

theorem slash_not_mem_roundName (number : Nat) : '/' ∉ (roundName number).toList := by
  obtain ⟨digits, -, allDigits, name⟩ := toList_roundName number
  rw [name, List.mem_append, not_or]
  exact ⟨by decide, fun member => absurd (allDigits _ member) (by decide)⟩

namespace Campaign

variable (campaign : Campaign)

/-- The path of the log of findings. -/
def findingsPath : String :=
  inside campaign.folder "findings.jsonl"

/-- The path of a file of a round. -/
def filePath (number : Nat) (name : String) : String :=
  inside (campaign.roundFolder number) name

/-- The names of the files of a round. -/
def fileNames : List String :=
  ["bundle.json", "bundle.bin", "guest.rs", "project.json"]

/-- A path of a record: of the log, or of a file of some round. -/
def IsRecord (path : String) : Prop :=
  path = campaign.findingsPath ∨ ∃ number, ∃ name ∈ fileNames, path = campaign.filePath number name

/-- The records of all rounds lie below one folder. -/
theorem exists_root : ∃ root, (∀ number name,
    (campaign.filePath number name).toList =
      root ++ ((roundName number).toList ++ '/' :: name.toList)) ∧
        campaign.findingsPath.toList = root ++ "findings.jsonl".toList := by
  obtain ⟨root, same⟩ := exists_inside_eq campaign.folder
  refine ⟨root.toList, fun number name => ?_, by rw [findingsPath, same, String.toList_append]⟩
  obtain ⟨digits, nonempty, allDigits, named⟩ := toList_roundName number
  obtain ⟨c, last⟩ := Option.ne_none_iff_exists'.mp (mt List.getLast?_eq_none_iff.mp nonempty)
  have digit := allDigits c (List.mem_of_getLast? last)
  have ends : (campaign.roundFolder number).toList.getLast? = some c := by
    rw [roundFolder, same, String.toList_append, named, ← List.append_assoc,
      List.getLast?_append_of_ne_nil _ nonempty, last]
  have differs : c ≠ '/' := by
    rintro rfl
    exact absurd digit (by decide)
  rw [filePath, inside_eq ends differs, roundFolder, same]
  simp

/-- The path of a file tells its round and its name. -/
theorem filePath_injective {number other : Nat} {name otherName : String}
    (same : campaign.filePath number name = campaign.filePath other otherName) :
    number = other ∧ name = otherName := by
  obtain ⟨root, file, -⟩ := campaign.exists_root
  have texts := congrArg String.toList same
  rw [file, file, List.append_cancel_left_eq] at texts
  -- no name of a round has a slash in it, so the first slash parts the folder from the file
  have rounds := congrArg (List.takeWhile (· ≠ '/')) texts
  have names := congrArg (List.dropWhile (· ≠ '/')) texts
  have inside (number : Nat) : ∀ c ∈ (roundName number).toList, decide (c ≠ '/') = true :=
    fun c member => decide_eq_true fun slash => slash_not_mem_roundName number (slash ▸ member)
  rw [List.takeWhile_append_of_pos (inside _), List.takeWhile_append_of_pos (inside _)] at rounds
  rw [List.dropWhile_append_of_pos (inside _), List.dropWhile_append_of_pos (inside _)] at names
  constructor
  · exact roundName_injective (String.ext (by simpa using rounds))
  · exact String.ext (by simpa using names)

theorem roundFolder_injective : Function.Injective campaign.roundFolder := fun _ _ same =>
  (campaign.filePath_injective (congrArg (inside · "") same)).1

/-- The log is no file of a round. -/
theorem filePath_ne_findingsPath (number : Nat) (name : String) :
    campaign.filePath number name ≠ campaign.findingsPath := by
  obtain ⟨root, file, log⟩ := campaign.exists_root
  intro same
  have texts := congrArg String.toList same
  rw [file, log, List.append_cancel_left_eq] at texts
  have slash : '/' ∈ "findings.jsonl".toList := by
    rw [← texts]
    simp
  exact absurd slash (by decide)

/-- A path that ends as no record does is no record. -/
theorem not_isRecord {path : String} {ending : List Char} (ends : ending <:+ path.toList)
    (strange : ∀ name ∈ "findings.jsonl" :: fileNames,
      ¬ ending <:+ name.toList ∧ ¬ name.toList <:+ ending) : ¬ campaign.IsRecord path := by
  obtain ⟨root, file, log⟩ := campaign.exists_root
  have clash {name : String} (member : name ∈ "findings.jsonl" :: fileNames)
      (suffix : name.toList <:+ path.toList) : False := by
    obtain ⟨noEnding, noName⟩ := strange name member
    obtain within | around := List.suffix_or_suffix_of_suffix ends suffix
    · exact noEnding within
    · exact noName around
  rintro (rfl | ⟨number, name, member, rfl⟩)
  · exact clash List.mem_cons_self ⟨root, log.symm⟩
  · refine clash (List.mem_cons_of_mem _ member) ⟨root ++ ((roundName number).toList ++ ['/']), ?_⟩
    simp [file]

end Campaign

end Metamorph
