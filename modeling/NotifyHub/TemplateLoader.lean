import NotifyHub.Domain
import NotifyHub.Lib.Lines

/-! # Template files

A template file has a front matter of `key: value` lines between two `---` markers, and a
body. `parseFile` takes the first `---` that ends a line for the closing marker, so a name or
a subject that ends with `---` closes the front matter within its own line.
-/

namespace NotifyHub

open Lines

structure TemplateFile where
  name : String
  channel : Channel
  subjectTemplate : Option String
  bodyTemplate : String
  deriving Repr, DecidableEq

/-- `unicode.IsSpace`. -/
def isSpace (c : Char) : Bool :=
  (0x09 ≤ c.toNat && c.toNat ≤ 0x0d) || (0x2000 ≤ c.toNat && c.toNat ≤ 0x200a) ||
    [0x20, 0x85, 0xa0, 0x1680, 0x2028, 0x2029, 0x202f, 0x205f, 0x3000].contains c.toNat

namespace TemplateLoader

def trimSpace (s : List Char) : List Char := trim isSpace s

/-- The switch over the keys; other keys are ignored. -/
def set (parsed : TemplateFile) (key val : String) : TemplateFile :=
  match key with
  | "name" => { parsed with name := val }
  | "channel" => { parsed with channel := .ofText val }
  | "subject" => { parsed with subjectTemplate := some val }
  | _ => parsed

/-- The body of the loop over the lines. -/
def readLine (parsed : TemplateFile) (line : List Char) : TemplateFile :=
  let line := trimSpace line
  if line = [] then parsed
  else
    match cut ':' line with
    | none => parsed
    | some (key, val) => set parsed (.ofList (trimSpace key)) (.ofList (trimSpace val))

def blank (body : List Char) : TemplateFile :=
  { name := "", channel := .ofText "", subjectTemplate := none, bodyTemplate := .ofList body }

/-- The checks after the loop; `quote` is the verb `%q`. -/
def check (quote : String → String) (parsed : TemplateFile) : Except String TemplateFile :=
  if parsed.name = "" then .error "template name is required in front-matter"
  else if !parsed.channel.isValid then
    .error ("invalid channel " ++ quote parsed.channel.text ++ " in front-matter")
  else .ok parsed

def marker : List Char := "---\n".toList

/-- `data` is what `os.ReadFile` returns. -/
def parseFile (quote : String → String) (data : Except String String) :
    Except String TemplateFile :=
  match data with
  | .error err => .error err
  | .ok text =>
      let content := text.toList
      if !marker.isPrefixOf content then .error "template must start with ---"
      else
        match index marker (content.drop 4) with
        | none => .error "missing closing --- in front-matter"
        | some idx =>
            let frontMatter := (content.drop 4).take idx
            let body := trimSpace (content.drop (4 + idx + 4))
            if body = [] then .error "template body is empty"
            else check quote ((frontMatter.splitOn '\n').foldl readLine (blank body))

/-! ## Cutting a text -/

section Cut

variable {quote : String → String} {parsed : TemplateFile} {lines : List (List Char)}
  {front rest : List Char}

theorem marker_eq : marker = ['-', '-', '-'] ++ ['\n'] := rfl

/-- The first line that ends with `---` closes the front matter. -/
theorem parseFile_cut (clean : ∀ line ∈ lines, '\n' ∉ line)
    (unmarked : ∀ line ∈ lines, ¬['-', '-', '-'] <:+ line) (cleanFront : '\n' ∉ front)
    {text : String}
    (same : text.toList = marker ++ (unlines '\n' lines ++ front ++ marker ++ rest)) :
    parseFile quote (.ok text) =
      if trimSpace rest = [] then .error "template body is empty"
      else check quote ((lines ++ [front]).foldl readLine (blank (trimSpace rest))) := by
  have starts : marker.isPrefixOf text.toList = true := by
    rw [List.isPrefixOf_iff_prefix, same]
    exact List.prefix_append _ _
  have content : text.toList.drop 4 = unlines '\n' lines ++ front ++ marker ++ rest := by
    rw [same]
    rfl
  have found : index marker (text.toList.drop 4) = some (unlines '\n' lines ++ front).length := by
    rw [content, marker_eq]
    exact index_unlines (by decide) clean unmarked cleanFront rest
  have head : (text.toList.drop 4).take (unlines '\n' lines ++ front).length =
      unlines '\n' lines ++ front := by
    rw [content, List.append_assoc _ marker, List.take_left]
  have tail : text.toList.drop (4 + (unlines '\n' lines ++ front).length + 4) = rest := by
    rw [Nat.add_assoc, ← List.drop_drop, content, List.append_assoc _ marker, ← List.drop_drop,
      List.drop_left]
    rfl
  simp only [parseFile, starts, found, head, tail, splitOn_unlines clean cleanFront]
  rfl

end Cut

/-! ## Files as they are written -/

/-- A text of one line, with something in it and no space around it. -/
def Inline (s : String) : Prop := s ≠ "" ∧ '\n' ∉ s.toList ∧ Trimmed isSpace s.toList

structure WellFormed (file : TemplateFile) : Prop where
  name : Inline file.name
  channel : file.channel.isValid = true
  subject : ∀ s ∈ file.subjectTemplate, Inline s
  body : file.bodyTemplate ≠ "" ∧ Trimmed isSpace file.bodyTemplate.toList

/-- The file with these contents: a line for each field between the markers, and the body. -/
def text (file : TemplateFile) : String :=
  "---\n" ++ "name: " ++ file.name ++ "\n" ++ "channel: " ++ file.channel.text ++ "\n" ++
    (match file.subjectTemplate with
      | none => ""
      | some subject => "subject: " ++ subject ++ "\n") ++
    "---\n" ++ file.bodyTemplate

def EndsMarked (s : String) : Prop := ['-', '-', '-'] <:+ s.toList

instance (s : String) : Decidable (EndsMarked s) := inferInstanceAs (Decidable (_ <:+ _))

def fieldLine (key val : String) : List Char := key.toList ++ ':' :: ' ' :: val.toList

/-- The lines of the front matter. -/
def header (file : TemplateFile) : List (List Char) :=
  [fieldLine "name" file.name, fieldLine "channel" file.channel.text] ++
    (file.subjectTemplate.map (fieldLine "subject")).toList

section Round

variable {quote : String → String} {file parsed : TemplateFile} {key val : String}

theorem toList_text (file : TemplateFile) :
    (text file).toList =
      marker ++ (unlines '\n' (header file) ++ [] ++ marker ++ file.bodyTemplate.toList) := by
  unfold text header
  cases file.subjectTemplate with
  | none => simp [fieldLine, unlines, marker]
  | some s => simp [fieldLine, unlines, marker]

/-- A key that can stand before a colon. -/
def Key (key : String) : Prop :=
  key ≠ "" ∧ ':' ∉ key.toList ∧ '\n' ∉ key.toList ∧ Trimmed isSpace key.toList

instance (key : String) : Decidable (Key key) := inferInstanceAs (Decidable (_ ∧ _ ∧ _ ∧ _))

theorem toList_ne_nil {s : String} (some_ : s ≠ "") : s.toList ≠ [] := by
  simpa using some_

/-- Whatever follows the colon, the value goes to the key. -/
theorem readLine_key (good : Key key) (parsed : TemplateFile) (rest : List Char) :
    readLine parsed (key.toList ++ ':' :: rest) =
      set parsed key (.ofList (trimSpace (rest.rdropWhile isSpace))) := by
  obtain ⟨some_, colonFree, _, trimmed⟩ := good
  have colon : Trimmed isSpace (key.toList ++ [':']) := by
    refine ⟨?_, by simp; decide⟩
    rw [List.head?_append_of_ne_nil _ (toList_ne_nil some_)]
    exact trimmed.1
  have line : trimSpace (key.toList ++ ':' :: rest) =
      key.toList ++ ':' :: rest.rdropWhile isSpace := by
    simpa [trimSpace] using colon.trim_append (by simp) rest
  have nonempty : key.toList ++ ':' :: rest.rdropWhile isSpace ≠ [] := by simp
  rw [readLine, line, if_neg nonempty, cut_append colonFree]
  simp only [trimSpace, trimmed.trim_eq, String.ofList_toList]

theorem readLine_fieldLine (key : String) (good : Key key) (inline : Inline val)
    (parsed : TemplateFile) :
    readLine parsed (fieldLine key val) = set parsed key val := by
  obtain ⟨some_, _, trimmed⟩ := inline
  have value : trimSpace ((' ' :: val.toList).rdropWhile isSpace) = val.toList := by
    rw [trimmed.rdropWhile_cons (toList_ne_nil some_), trimSpace, trim_cons_space (by decide),
      trimmed.trim_eq]
  rw [fieldLine, readLine_key good, value, String.ofList_toList]

theorem readLine_nil (parsed : TemplateFile) : readLine parsed [] = parsed := by
  simp [readLine, trimSpace]

theorem inline_channel (valid : file.channel.isValid = true) : Inline file.channel.text := by
  cases channel : file.channel with
  | email | push | sms | inapp => exact ⟨by decide, by decide, by decide⟩
  | other name => simp [channel, Channel.isValid] at valid

theorem ofText_channel (valid : file.channel.isValid = true) :
    .ofText file.channel.text = file.channel := by
  cases channel : file.channel with
  | email | push | sms | inapp => rfl
  | other name => simp [channel, Channel.isValid] at valid

theorem not_endsMarked_channel (valid : file.channel.isValid = true) :
    ¬EndsMarked file.channel.text := by
  cases channel : file.channel with
  | email | push | sms | inapp => decide
  | other name => simp [channel, Channel.isValid] at valid

/-- The fields are read from their lines. -/
theorem foldl_header (wellFormed : WellFormed file) :
    (header file ++ [[]]).foldl readLine (blank file.bodyTemplate.toList) = file := by
  have name := readLine_fieldLine "name" (by decide) wellFormed.name
  have channel := readLine_fieldLine "channel" (by decide) (inline_channel wellFormed.channel)
  have text := ofText_channel wellFormed.channel
  obtain ⟨fileName, fileChannel, fileSubject, fileBody⟩ := file
  cases fileSubject with
  | none =>
      simp only [header, Option.map_none, Option.toList_none, List.append_nil, List.cons_append,
        List.nil_append, List.foldl_cons, List.foldl_nil, name, channel, readLine_nil]
      simp only [set, blank, text, String.ofList_toList]
  | some s =>
      have subject := readLine_fieldLine "subject" (by decide) (wellFormed.subject s rfl)
      simp only [header, Option.map_some, Option.toList_some, List.cons_append,
        List.nil_append, List.foldl_cons, List.foldl_nil, name, channel, subject, readLine_nil]
      simp only [set, blank, text, String.ofList_toList]

theorem newline_notMem_fieldLine (good : Key key) (inline : '\n' ∉ val.toList) :
    '\n' ∉ fieldLine key val := by
  obtain ⟨_, _, newlineFree, _⟩ := good
  simp [fieldLine, newlineFree, inline]

theorem endsMarked_fieldLine : ['-', '-', '-'] <:+ fieldLine key val ↔ EndsMarked val := by
  have line : fieldLine key val = (key.toList ++ [':']) ++ ' ' :: val.toList := by
    simp [fieldLine]
  rw [line, suffix_behind (by decide)]
  rfl

theorem unmarked_fieldLine (key : String) (good : Key key) (inline : Inline val)
    (unmarked : ¬EndsMarked val) :
    '\n' ∉ fieldLine key val ∧ ¬['-', '-', '-'] <:+ fieldLine key val :=
  ⟨newline_notMem_fieldLine good inline.2.1, fun ends => unmarked (endsMarked_fieldLine.mp ends)⟩

theorem check_ok (passed : check quote parsed = .ok file) :
    parsed = file ∧ parsed.channel.isValid = true := by
  unfold check at passed
  split at passed
  · cases passed
  · split at passed
    · cases passed
    · rename_i valid
      obtain rfl := Except.ok.inj passed
      exact ⟨rfl, by simpa using valid⟩

theorem bodyTemplate_readLine (parsed : TemplateFile) (line : List Char) :
    (readLine parsed line).bodyTemplate = parsed.bodyTemplate := by
  simp only [readLine]
  split
  · rfl
  · split
    · rfl
    · unfold set
      split <;> rfl

theorem bodyTemplate_foldl (lines : List (List Char)) (parsed : TemplateFile) :
    (lines.foldl readLine parsed).bodyTemplate = parsed.bodyTemplate := by
  induction lines generalizing parsed with
  | nil => rfl
  | cons line rest ih => rw [List.foldl_cons, ih, bodyTemplate_readLine]

/-- A mark at the end of the name closes the front matter before the channel. -/
theorem parseFile_name_marked (wellFormed : WellFormed file) (marked : EndsMarked file.name) :
    parseFile quote (.ok (text file)) ≠ .ok file := by
  obtain ⟨front, name⟩ := marked
  have newlineFree : '\n' ∉ front := by
    have inline := wellFormed.name.2.1
    rw [← name] at inline
    exact fun member => inline (List.mem_append_left _ member)
  have cutText : (text file).toList =
      marker ++ (unlines '\n' [] ++ ("name".toList ++ ':' :: ' ' :: front) ++ marker ++
        (unlines '\n' (header file).tail ++ marker ++ file.bodyTemplate.toList)) := by
    rw [toList_text]
    simp [header, unlines, fieldLine, ← name, marker]
  intro parsed
  rw [parseFile_cut (by simp) (by simp) (by simp [newlineFree]) cutText] at parsed
  split at parsed
  · cases parsed
  · obtain ⟨_, valid⟩ := check_ok parsed
    rw [List.nil_append, List.foldl_cons, List.foldl_nil, readLine_key (by decide)] at valid
    cases valid

/-- A mark at the end of the subject leaves the closing marker to the body. -/
theorem parseFile_subject_marked {subject : String} (wellFormed : WellFormed file)
    (unmarked : ¬EndsMarked file.name) (given : file.subjectTemplate = some subject)
    (marked : EndsMarked subject) :
    parseFile quote (.ok (text file)) ≠ .ok file := by
  obtain ⟨front, whole⟩ := marked
  have newlineFree : '\n' ∉ front := by
    have inline := (wellFormed.subject subject given).2.1
    rw [← whole] at inline
    exact fun member => inline (List.mem_append_left _ member)
  have cutText : (text file).toList =
      marker ++ (unlines '\n' [fieldLine "name" file.name, fieldLine "channel" file.channel.text] ++
        ("subject".toList ++ ':' :: ' ' :: front) ++ marker ++
        (marker ++ file.bodyTemplate.toList)) := by
    rw [toList_text]
    simp [header, given, unlines, fieldLine, ← whole, marker]
  have name := unmarked_fieldLine "name" (by decide) wellFormed.name unmarked
  have channel := unmarked_fieldLine "channel" (by decide)
    (inline_channel wellFormed.channel) (not_endsMarked_channel wellFormed.channel)
  have body : trimSpace (marker ++ file.bodyTemplate.toList) =
      marker ++ file.bodyTemplate.toList := by
    refine Trimmed.trim_eq ⟨by simp [marker]; decide, ?_⟩
    rw [List.getLast?_append_of_ne_nil _ (toList_ne_nil wellFormed.body.1)]
    exact wellFormed.body.2.2
  intro parsed
  rw [parseFile_cut (by simp [name.1, channel.1]) (by simp [name.2, channel.2])
    (by simp [newlineFree]) cutText, body] at parsed
  split at parsed
  · cases parsed
  · obtain ⟨same, _⟩ := check_ok parsed
    have bodies := congrArg TemplateFile.bodyTemplate same
    rw [bodyTemplate_foldl] at bodies
    have lists : marker ++ file.bodyTemplate.toList = file.bodyTemplate.toList := by
      rw [← String.toList_ofList (l := marker ++ file.bodyTemplate.toList)]
      exact congrArg String.toList bodies
    exact absurd (List.append_left_eq_self.mp lists) (by decide)

theorem parseFile_unmarked (wellFormed : WellFormed file) (name : ¬EndsMarked file.name)
    (subject : ∀ s ∈ file.subjectTemplate, ¬EndsMarked s) :
    parseFile quote (.ok (text file)) = .ok file := by
  have lines : ∀ line ∈ header file, '\n' ∉ line ∧ ¬['-', '-', '-'] <:+ line := by
    intro line member
    simp only [header, List.mem_append, List.mem_cons, List.not_mem_nil, or_false,
      Option.mem_toList, Option.map_eq_some_iff] at member
    rcases member with (rfl | rfl) | ⟨s, given, rfl⟩
    · exact unmarked_fieldLine _ (by decide) wellFormed.name name
    · exact unmarked_fieldLine _ (by decide) (inline_channel wellFormed.channel)
        (not_endsMarked_channel wellFormed.channel)
    · exact unmarked_fieldLine _ (by decide) (wellFormed.subject s given) (subject s given)
  have body : trimSpace file.bodyTemplate.toList = file.bodyTemplate.toList :=
    wellFormed.body.2.trim_eq
  rw [parseFile_cut (fun line member => (lines line member).1)
    (fun line member => (lines line member).2) (by simp) (toList_text file), body,
    if_neg (toList_ne_nil wellFormed.body.1), foldl_header wellFormed, check,
    if_neg wellFormed.name.1, wellFormed.channel]
  rfl

/-- A file that is written with these contents is read back with them if and only if neither the
    name nor the subject ends with `---`. -/
theorem parseFile_text_iff (quote : String → String) (file : TemplateFile)
    (wellFormed : WellFormed file) :
    parseFile quote (.ok (text file)) = .ok file ↔
      ¬EndsMarked file.name ∧ ∀ subject ∈ file.subjectTemplate, ¬EndsMarked subject := by
  constructor
  · intro parsed
    have name : ¬EndsMarked file.name :=
      fun marked => parseFile_name_marked wellFormed marked parsed
    exact ⟨name, fun subject given marked =>
      parseFile_subject_marked wellFormed name given marked parsed⟩
  · rintro ⟨name, subject⟩
    exact parseFile_unmarked wellFormed name subject

/-- A name, a subject and a body with dashes and colons in them. -/
def reminder : TemplateFile :=
  { name := "re:minder--1"
    channel := .email
    subjectTemplate := some "--- due: today"
    bodyTemplate := "a: b\n---\nc" }

theorem wellFormed_reminder : WellFormed reminder where
  name := ⟨by decide, by decide, by decide⟩
  channel := rfl
  subject := by
    rintro s ⟨⟩
    exact ⟨by decide, by decide, by decide⟩
  body := ⟨by decide, by decide⟩

/-- `%q` of a text that needs no escapes. -/
def quoted (s : String) : String := "\"" ++ s ++ "\""

theorem parseFile_text_reminder :
    WellFormed reminder ∧ parseFile quoted (.ok (text reminder)) = .ok reminder :=
  ⟨wellFormed_reminder, (parseFile_text_iff quoted reminder wellFormed_reminder).mpr (by decide)⟩

/-- The name ends with dashes: the rest of the front matter is taken for the body and the channel
    is missing. -/
theorem parseFile_dashed_name :
    WellFormed { reminder with name := "draft ---" } ∧
      parseFile quoted (.ok (text { reminder with name := "draft ---" })) =
        .error "invalid channel \"\" in front-matter" := by
  exact ⟨⟨⟨by decide, by decide, by decide⟩, rfl, wellFormed_reminder.subject,
    wellFormed_reminder.body⟩, by decide +kernel⟩

end Round

end TemplateLoader

end NotifyHub
