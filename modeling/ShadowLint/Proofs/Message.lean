import ShadowLint.Diagnostic

/-!
# What a message tells

The message that a name hides a declaration can be read in one way only.  The quoted name ends at
the first quote without a backslash, the number of the line ends at the first space, and the rest
says whether a file is named and which one.  The main statement is `hidingMessage_eq_iff`.
-/

namespace ShadowLint

namespace Text

/-- Puts a backslash before every occurrence of one character. -/
def withBackslashes (special : Char) (chars : List Char) : List Char :=
  chars.flatMap fun c => if c = special then ['\\', c] else [c]

/-- Quotes get their backslashes after the backslashes of the name: in the other order these would
double the backslashes of quotes. -/
theorem backslashed_eq_withBackslashes (chars : List Char) :
    backslashed chars = withBackslashes '"' (withBackslashes '\\' chars) := by
  induction chars with
  | nil => rfl
  | cons c rest ih =>
      have quote_ne : ('\\' : Char) ≠ '"' := by decide
      by_cases isBackslash : c = '\\'
      · simp_all [backslashed, withBackslashes]
      · by_cases isQuote : c = '"'
        · simp_all [backslashed, withBackslashes]
        · simp_all [backslashed, withBackslashes]

theorem toList_doubleQuoted (name : String) :
    (doubleQuoted name).toList = '"' :: (backslashed name.toList ++ ['"']) :=
  String.toList_ofList

/-- The text is empty or begins with the character. -/
def OpensWith (c : Char) : List Char → Prop
  | [] => True
  | first :: _ => first = c

/-- Words without a character end where the character follows for the first time. -/
theorem append_inj_of_opensWith {c : Char} {left right leftRest rightRest : List Char}
    (left_free : c ∉ left) (right_free : c ∉ right)
    (left_opens : OpensWith c leftRest) (right_opens : OpensWith c rightRest)
    (same : left ++ leftRest = right ++ rightRest) : left = right ∧ leftRest = rightRest := by
  induction left generalizing right with
  | nil =>
      cases right with
      | nil => exact ⟨rfl, same⟩
      | cons d right =>
          obtain rfl : leftRest = d :: (right ++ rightRest) := same
          obtain rfl : d = c := left_opens
          exact absurd List.mem_cons_self right_free
  | cons d left ih =>
      cases right with
      | nil =>
          obtain rfl : d :: (left ++ leftRest) = rightRest := same
          obtain rfl : d = c := right_opens
          exact absurd List.mem_cons_self left_free
      | cons e right =>
          obtain ⟨rfl, rest_same⟩ := List.cons.inj same
          obtain ⟨rfl, rest_eq⟩ := ih (List.not_mem_of_not_mem_cons left_free)
            (List.not_mem_of_not_mem_cons right_free) rest_same
          exact ⟨rfl, rest_eq⟩

/-- The text of a number holds decimal digits only. -/
theorem isDigit_of_mem_repr {number : Nat} {c : Char} (mem : c ∈ number.repr.toList) :
    c.isDigit := by
  rw [Nat.toList_repr] at mem
  exact Nat.isDigit_of_mem_toDigits (by decide) (Nat.le_refl 10) mem

theorem eq_of_repr_eq {left right : Nat} (same : left.repr = right.repr) : left = right := by
  have digits_eq : Nat.toDigits 10 left = Nat.toDigits 10 right := by
    rw [← Nat.toList_repr, ← Nat.toList_repr, same]
  have values_eq := congrArg (fun digits => Nat.ofDigitChars 10 digits 0) digits_eq
  simpa using values_eq

theorem repr_ne_sign_append (number : Nat) (text : String) : number.repr ≠ "-" ++ text := by
  intro same
  have mem : '-' ∈ number.repr.toList := by simp [same]
  have isDigit := isDigit_of_mem_repr mem
  revert isDigit
  decide

theorem eq_of_toString_eq {left right : Int} (same : toString left = toString right) :
    left = right := by
  rw [Int.toString_eq_repr, Int.toString_eq_repr] at same
  cases left with
  | ofNat left =>
      cases right with
      | ofNat right => rw [eq_of_repr_eq same]
      | negSucc right => exact absurd same (repr_ne_sign_append _ _)
  | negSucc left =>
      cases right with
      | ofNat right => exact absurd same.symm (repr_ne_sign_append _ _)
      | negSucc right =>
          have digits_same : (left + 1).repr = (right + 1).repr := by simpa [Int.repr] using same
          have succ_eq := eq_of_repr_eq digits_same
          rw [Nat.succ.inj succ_eq]

theorem space_notMem_toString (number : Int) : ' ' ∉ (toString number).toList := by
  have notDigit : ¬(' ' : Char).isDigit := by decide
  rw [Int.toString_eq_repr]
  intro mem
  cases number with
  | ofNat number => exact notDigit (isDigit_of_mem_repr mem)
  | negSucc number =>
      rw [Int.repr, String.toList_append, List.mem_append] at mem
      rcases mem with sign | digit
      · revert sign
        decide
      · exact notDigit (isDigit_of_mem_repr digit)

end Text

/-- What a message says about the file: nothing if it is the current one, else its base name. -/
def filePart (outerFile currentFile : String) : String :=
  if outerFile = currentFile then "" else " in " ++ (Path.ofText outerFile).baseName

theorem toList_hidingMessage (name : String) (line : Int) (outerFile currentFile : String) :
    (hidingMessage name line outerFile currentFile).toList =
      "declaration of ".toList ++ '"' :: (Text.backslashed name.toList ++ '"' ::
        (" shadows declaration at line ".toList ++
          ((toString line).toList ++ (filePart outerFile currentFile).toList))) := by
  have message_eq : hidingMessage name line outerFile currentFile =
      "declaration of " ++ Text.doubleQuoted name ++ " shadows declaration at line " ++
        toString line ++ filePart outerFile currentFile := rfl
  rw [message_eq, String.toList_append, String.toList_append, String.toList_append,
    String.toList_append, Text.toList_doubleQuoted]
  simp only [List.append_assoc, List.cons_append, List.nil_append]

theorem opensWith_filePart (outerFile currentFile : String) :
    Text.OpensWith ' ' (filePart outerFile currentFile).toList := by
  unfold filePart
  split
  · trivial
  · rw [String.toList_append]
    exact rfl

/-- The file is named exactly if it is not the current one. -/
theorem filePart_eq_iff {outerFile currentFile otherOuter otherCurrent : String} :
    filePart outerFile currentFile = filePart otherOuter otherCurrent ↔
      (outerFile = currentFile ↔ otherOuter = otherCurrent) ∧
        (outerFile ≠ currentFile →
          (Path.ofText outerFile).baseName = (Path.ofText otherOuter).baseName) := by
  have named (baseName : String) : " in " ++ baseName ≠ "" := by simp
  unfold filePart
  by_cases here : outerFile = currentFile <;> by_cases there : otherOuter = otherCurrent
  · simp [here, there]
  · simp [here, there, (named _).symm]
  · simp [here, there, named]
  · simp [here, there]

/-- Messages are equal exactly if they have the same name and line, and name either no file or files
with the same base name. -/
theorem hidingMessage_eq_iff {name otherName : String} {line otherLine : Int}
    {outerFile currentFile otherOuter otherCurrent : String} :
    hidingMessage name line outerFile currentFile =
        hidingMessage otherName otherLine otherOuter otherCurrent ↔
      name = otherName ∧ line = otherLine ∧
        (outerFile = currentFile ↔ otherOuter = otherCurrent) ∧
        (outerFile ≠ currentFile →
          (Path.ofText outerFile).baseName = (Path.ofText otherOuter).baseName) := by
  rw [← filePart_eq_iff]
  constructor
  · intro same
    have texts_eq := congrArg String.toList same
    rw [toList_hidingMessage, toList_hidingMessage] at texts_eq
    obtain ⟨names_eq, behind_eq⟩ :=
      Text.backslashed_append_quote_inj (List.cons.inj (List.append_cancel_left texts_eq)).2
    obtain ⟨lines_eq, files_eq⟩ :=
      Text.append_inj_of_opensWith (Text.space_notMem_toString line)
        (Text.space_notMem_toString otherLine) (opensWith_filePart _ _) (opensWith_filePart _ _)
        (List.append_cancel_left behind_eq)
    exact ⟨String.toList_inj.mp names_eq, Text.eq_of_toString_eq (String.toList_inj.mp lines_eq),
      String.toList_inj.mp files_eq⟩
  · rintro ⟨rfl, rfl, files_eq⟩
    apply String.toList_inj.mp
    rw [toList_hidingMessage, toList_hidingMessage, files_eq]

end ShadowLint
