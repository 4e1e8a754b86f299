import Mathlib.Data.List.Basic
import Mathlib.Data.List.Infix
import Mathlib.Data.List.TakeWhile

namespace ShellScript

/-! What a POSIX shell defines when it reads a script that exports variables. A script that has
anything else to do has no meaning here. -/

inductive Mode where
  | plain
  | escape
  | single
  | double
  | doubleEscape
  deriving DecidableEq

inductive Step where
  | ends
  | fails
  | reads (mode : Mode) (output : List Char)
  deriving DecidableEq

def isBlank (character : Char) : Bool := character = ' ' || character = '\t'

def endsWord (character : Char) : Bool :=
  isBlank character || character = '\n' || character = ';'

/-- Unquoted, these are operators, or are replaced by what the script alone does not say. -/
def special : List Char := ['$', '`', '&', '|', '<', '>', '(', ')', '*', '?', '[', '~']

/-- The rules of quoting: a backslash before a newline goes with it, and between double quotes a
backslash stays unless it has something to quote. -/
def step : Mode → Char → Step
  | .plain, character =>
      if endsWord character then .ends
      else if character = '\'' then .reads .single []
      else if character = '"' then .reads .double []
      else if character = '\\' then .reads .escape []
      else if character ∈ special then .fails
      else .reads .plain [character]
  | .escape, character => .reads .plain (if character = '\n' then [] else [character])
  | .single, character =>
      if character = '\'' then .reads .plain [] else .reads .single [character]
  | .double, character =>
      if character = '"' then .reads .plain []
      else if character = '\\' then .reads .doubleEscape []
      else if character = '$' ∨ character = '`' then .fails
      else .reads .double [character]
  | .doubleEscape, character =>
      if character = '\n' then .reads .double []
      else if character ∈ ['$', '`', '"', '\\'] then .reads .double [character]
      else .reads .double ['\\', character]

/-- The rest of a word without its quotes, and what is behind it. -/
def readWord : List Char → Mode → Option (List Char × List Char)
  | [], mode => if mode = .plain then some ([], []) else none
  | character :: rest, mode =>
      match step mode character with
      | .ends => some ([], character :: rest)
      | .fails => none
      | .reads next output => (readWord rest next).map fun read => (output ++ read.1, read.2)

def isNameCharacter (character : Char) : Bool := character.isAlphanum || character = '_'

structure IsIdentifier (name : List Char) : Prop where
  nonempty : name ≠ []
  characters : ∀ character ∈ name, isNameCharacter character = true
  noDigit : ∀ first, name.head? = some first → first.isDigit = false

instance (name : List Char) : Decidable (IsIdentifier name) :=
  decidable_of_iff (name ≠ [] ∧ name.all isNameCharacter = true ∧
      (name.head?.all fun first => !first.isDigit) = true)
    ⟨fun holds => ⟨holds.1, List.all_eq_true.mp holds.2.1, fun first isFirst => by
        simpa [isFirst] using holds.2.2⟩,
      fun isIdentifier => ⟨isIdentifier.nonempty, List.all_eq_true.mpr isIdentifier.characters,
        by
          cases isFirst : name.head? with
          | none => rfl
          | some first => simp [isIdentifier.noDigit first isFirst]⟩⟩

abbrev Definition := List Char × List Char

/-- A word that defines a variable. -/
def definition (word : List Char) : Option Definition :=
  let name := word.takeWhile (· ≠ '=')
  if '=' ∈ word ∧ IsIdentifier name then some (name, (word.dropWhile (· ≠ '=')).tail) else none

def exportWord : List Char := ['e', 'x', 'p', 'o', 'r', 't']

/-- Where a command has come to: `export` alone would list all variables. -/
inductive Phase where
  | start
  | bare
  | given
  deriving DecidableEq

/-- The variables that are exported one after the other. -/
def commands : Nat → List Char → Phase → Option (List Definition)
  | 0, _, _ => none
  | _ + 1, [], phase => if phase = .bare then none else some []
  | fuel + 1, character :: rest, phase =>
      if isBlank character then commands fuel rest phase
      else if character = '\n' then
        if phase = .bare then none else commands fuel rest .start
      else if character = ';' then
        if phase = .given then commands fuel rest .start else none
      else if character = '#' then commands fuel (rest.dropWhile (· ≠ '\n')) phase
      else if character = '\\' ∧ rest.head? = some '\n' then commands fuel rest.tail phase
      else
        match readWord (character :: rest) .plain with
        | none => none
        | some (word, behind) =>
            if phase = .start then
              if word = exportWord then commands fuel behind .bare else none
            else
              match definition word with
              | none => none
              | some defined => (commands fuel behind .given).map (defined :: ·)

/-- What a script defines; it is text only without null characters. -/
def source (text : List Char) : Option (List Definition) :=
  if '\x00' ∈ text then none else commands (text.length + 1) text .start

example : source "export A='x y'; export B=\"it's\" C=\\'z#\n# done\n".toList =
    some [("A".toList, "x y".toList), ("B".toList, "it's".toList), ("C".toList, "'z#".toList)] := by
  decide +kernel

example : source "export A=''; touch /tmp/x; ''\n".toList = none := by
  decide +kernel

/-! A script that has each value between single quotes. -/

def line (defined : Definition) (rest : List Char) : List Char :=
  exportWord ++ ' ' :: (defined.1 ++ '=' :: '\'' :: (defined.2 ++ '\'' :: '\n' :: rest))

def script (definitions : List Definition) : List Char := definitions.foldr line []

theorem script_cons (defined : Definition) (others : List Definition) :
    script (defined :: others) = line defined (script others) := rfl

variable {word front rest behind text value : List Char} {mode : Mode} {phase : Phase}
  {character : Char} {defined : Definition} {definitions others : List Definition} {fuel : Nat}

theorem ne_of_nameCharacter {marks : List Char} (isName : isNameCharacter character = true)
    (areMarks : (marks.all fun mark => !isNameCharacter mark) = true) :
    ∀ mark ∈ marks, character ≠ mark := by
  rintro mark member rfl
  have isMark := List.all_eq_true.mp areMarks character member
  rw [isName] at isMark
  cases isMark

theorem isName_export : ∀ character ∈ exportWord, isNameCharacter character = true :=
  List.all_eq_true.mp (by decide)

theorem step_nameCharacter (isName : isNameCharacter character = true)
    (mode : Mode) (isMode : mode = .plain ∨ mode = .single ∨ mode = .double) :
    step mode character = .reads mode [character] := by
  have marks : ([' ', '\t', '\n', ';', '\'', '"', '\\', '$', '`', '&', '|', '<', '>',
      '(', ')', '*', '?', '[', '~'].all fun mark => !isNameCharacter mark) = true := by decide
  have other := ne_of_nameCharacter isName marks
  simp only [List.forall_mem_cons] at other
  rcases isMode with rfl | rfl | rfl <;>
  simp [step, endsWord, isBlank, special, other]

theorem step_equals (isMode : mode = .plain ∨ mode = .single ∨ mode = .double) :
    step mode '=' = .reads mode ['='] := by
  rcases isMode with rfl | rfl | rfl <;> decide

theorem readWord_append (same : ∀ character ∈ word, step mode character = .reads mode [character])
    (rest : List Char) : readWord (word ++ rest) mode =
      (readWord rest mode).map fun read => (word ++ read.1, read.2) := by
  induction word with
  | nil =>
      rw [List.nil_append]
      cases readWord rest mode <;> rfl
  | cons character word ih =>
      obtain ⟨first, others⟩ := List.forall_mem_cons.mp same
      rw [List.cons_append, readWord, first]
      dsimp only
      rw [ih others, Option.map_map]
      rfl

theorem readWord_of_ends (ends : endsWord character = true) (rest : List Char) :
    readWord (character :: rest) .plain = some ([], character :: rest) := by
  rw [readWord, step, if_pos ends]

theorem step_single (notQuote : character ≠ '\'') :
    step .single character = .reads .single [character] := by
  rw [step, if_neg notQuote]

theorem readWord_quoted (noQuote : '\'' ∉ value) (rest : List Char) :
    readWord (value ++ '\'' :: rest) .single =
      (readWord rest .plain).map fun read => (value ++ read.1, read.2) := by
  rw [readWord_append fun character member =>
    step_single fun isQuote => noQuote (isQuote ▸ member), readWord, step, if_pos rfl]
  dsimp only
  rw [Option.map_map]
  rfl

/-! The commands of such a script. -/

theorem not_separator (isName : isNameCharacter character = true) :
    isBlank character = false ∧ character ≠ '\n' ∧ character ≠ ';' ∧ character ≠ '#' ∧
      character ≠ '\\' ∧ character ≠ '=' := by
  have marks : ([' ', '\t', '\n', ';', '#', '\\', '='].all
      fun mark => !isNameCharacter mark) = true := by decide
  have other := ne_of_nameCharacter isName marks
  simp only [List.forall_mem_cons] at other
  simp [isBlank, other]

theorem commands_blank (fuel : Nat) (rest : List Char) (phase : Phase) :
    commands (fuel + 1) (' ' :: rest) phase = commands fuel rest phase := rfl

theorem commands_newline (fuel : Nat) (rest : List Char) :
    commands (fuel + 1) ('\n' :: rest) .given = commands fuel rest .start := rfl

theorem commands_word (begins : text.head?.any isNameCharacter = true) (fuel : Nat)
    (phase : Phase) :
    commands (fuel + 1) text phase =
      match readWord text .plain with
      | none => none
      | some (word, behind) =>
          if phase = .start then
            if word = exportWord then commands fuel behind .bare else none
          else
            match definition word with
            | none => none
            | some defined => (commands fuel behind .given).map (defined :: ·) := by
  cases text with
  | nil => cases begins
  | cons character rest =>
      obtain ⟨noBlank, noNewline, noSemicolon, noComment, noEscape, _⟩ := not_separator begins
      rw [commands, if_neg (by rw [noBlank]; exact Bool.false_ne_true), if_neg noNewline,
        if_neg noSemicolon, if_neg noComment, if_neg fun both => noEscape both.1]

theorem readWord_export (rest : List Char) :
    readWord (exportWord ++ ' ' :: rest) .plain = some (exportWord, ' ' :: rest) := by
  rw [readWord_append fun character member =>
    step_nameCharacter (isName_export character member) .plain (.inl rfl),
    readWord_of_ends (by decide)]
  rfl

theorem readWord_name {name : List Char} (isIdentifier : IsIdentifier name) (rest : List Char) :
    readWord (name ++ '=' :: '\'' :: rest) .plain =
      (readWord rest .single).map fun read => (name ++ '=' :: read.1, read.2) := by
  rw [readWord_append fun character member =>
    step_nameCharacter (isIdentifier.characters character member) _ (.inl rfl), readWord,
    step_equals (.inl rfl)]
  dsimp only
  rw [readWord, show step .plain '\'' = .reads .single [] by decide]
  dsimp only
  rw [Option.map_map, Option.map_map]
  rfl

theorem definition_eq {name : List Char} (isIdentifier : IsIdentifier name)
    (value : List Char) : definition (name ++ '=' :: value) = some (name, value) := by
  have noEquals : ∀ character ∈ name, (decide (character ≠ '=')) = true := fun character member =>
    decide_eq_true (not_separator (isIdentifier.characters character member)).2.2.2.2.2
  have isName : (name ++ '=' :: value).takeWhile (· ≠ '=') = name := by
    rw [List.takeWhile_append_of_pos noEquals, List.takeWhile_cons_of_neg (by decide),
      List.append_nil]
  have isValue : (name ++ '=' :: value).dropWhile (· ≠ '=') = '=' :: value := by
    rw [List.dropWhile_append_of_pos noEquals, List.dropWhile_cons_of_neg (by decide)]
  rw [definition, isName, isValue, if_pos ⟨by simp, isIdentifier⟩]
  rfl

theorem commands_export (fuel : Nat) (defined : Definition) (rest : List Char) :
    commands (fuel + 1) (line defined rest) .start =
      commands fuel (' ' :: (defined.1 ++ '=' :: '\'' :: (defined.2 ++ '\'' :: '\n' :: rest)))
        .bare := by
  rw [line, commands_word rfl, readWord_export]
  dsimp only
  rw [if_pos rfl, if_pos rfl]

theorem commands_line (isIdentifier : IsIdentifier defined.1) (fuel : Nat) (rest : List Char) :
    commands (fuel + 3) (line defined rest) .start =
      match readWord (defined.2 ++ '\'' :: '\n' :: rest) .single with
      | none => none
      | some (value, behind) =>
          (commands fuel behind .given).map ((defined.1, value) :: ·) := by
  obtain ⟨first, others, same⟩ := List.exists_cons_of_ne_nil isIdentifier.nonempty
  have isName : isNameCharacter first = true :=
    isIdentifier.characters first (same ▸ List.mem_cons_self)
  have begins (rest : List Char) : (defined.1 ++ rest).head?.any isNameCharacter = true := by
    rw [same]
    exact isName
  rw [commands_export, commands_blank, commands_word (begins _), readWord_name isIdentifier]
  cases readWord (defined.2 ++ '\'' :: '\n' :: rest) .single with
  | none => rfl
  | some read =>
      dsimp only [Option.map_some]
      rw [if_neg (by decide), definition_eq isIdentifier]

theorem length_line (defined : Definition) (rest : List Char) :
    rest.length + 3 < (line defined rest).length := by
  simp [line, exportWord]
  omega

/-- Values without quotes come back. -/
theorem commands_script (areIdentifiers : ∀ defined ∈ definitions, IsIdentifier defined.1)
    (noQuotes : ∀ defined ∈ definitions, '\'' ∉ defined.2)
    (enough : (script definitions).length < fuel) :
    commands fuel (script definitions) .start = some definitions := by
  induction definitions generalizing fuel with
  | nil =>
      obtain ⟨fuel, rfl⟩ := Nat.exists_eq_add_one_of_ne_zero (Nat.ne_of_gt enough)
      rfl
  | cons defined others ih =>
      obtain ⟨isIdentifier, areIdentifiers⟩ := List.forall_mem_cons.mp areIdentifiers
      obtain ⟨noQuote, noQuotes⟩ := List.forall_mem_cons.mp noQuotes
      have longer := length_line defined (script others)
      rw [script_cons] at enough ⊢
      obtain ⟨fuel, rfl⟩ : ∃ fewer, fuel = fewer + 4 := ⟨fuel - 4, by omega⟩
      rw [commands_line isIdentifier, readWord_quoted noQuote, readWord_of_ends (by decide)]
      dsimp only [Option.map_some]
      rw [commands_newline, ih areIdentifiers noQuotes (by omega), List.append_nil]
      rfl

/-! A quote in a value is not read as itself. -/

def debt : Mode → Nat
  | .single | .double => 1
  | .plain | .escape | .doubleEscape => 0

theorem debt_of_reads {next : Mode} {output : List Char}
    (reads : step mode character = .reads next output) :
    output.length + debt mode ≤ 1 + debt next := by
  cases mode <;> rw [step] at reads
  all_goals
    repeat' split at reads
    all_goals cases reads
    all_goals simp [debt]

theorem plain_of_ends (ends : step mode character = .ends) :
    mode = .plain ∧ endsWord character = true := by
  cases mode with
  | plain =>
      rw [step] at ends
      split at ends
      · rename_i isEnd
        exact ⟨rfl, isEnd⟩
      · repeat' split at ends
        all_goals cases ends
  | _ =>
      rw [step] at ends
      repeat' split at ends
      all_goals cases ends

theorem step_plain_reads {next : Mode} {output : List Char}
    (reads : step .plain character = .reads next output) :
    (next = .plain ∧ output = [character] ∧ character ≠ '\'') ∨ output = [] := by
  rw [step] at reads
  repeat' split at reads
  all_goals cases reads
  all_goals simp_all

theorem readWord_cons (read : readWord (character :: rest) mode = some (word, behind)) :
    ((mode = .plain ∧ endsWord character = true) ∧ word = [] ∧ behind = character :: rest) ∨
      ∃ next output others, step mode character = .reads next output ∧
        readWord rest next = some (others, behind) ∧ word = output ++ others := by
  rw [readWord] at read
  cases stepped : step mode character with
  | ends =>
      rw [stepped] at read
      cases read
      exact .inl ⟨plain_of_ends stepped, rfl, rfl⟩
  | fails =>
      rw [stepped] at read
      cases read
  | reads next output =>
      rw [stepped] at read
      obtain ⟨more, isMore, same⟩ := Option.map_eq_some_iff.mp read
      cases same
      exact .inr ⟨next, output, more.1, rfl, isMore, rfl⟩

theorem length_of_readWord (read : readWord text mode = some (word, behind)) :
    ∃ used, text = used ++ behind ∧ word.length + debt mode ≤ used.length := by
  induction text generalizing mode word with
  | nil =>
      rw [readWord] at read
      split at read
      · rename_i isPlain
        cases read
        subst isPlain
        exact ⟨[], rfl, le_refl _⟩
      · cases read
  | cons character rest ih =>
      rcases readWord_cons read with ⟨⟨rfl, _⟩, rfl, rfl⟩ | ⟨next, output, others, stepped, more, rfl⟩
      · exact ⟨[], rfl, le_refl _⟩
      · obtain ⟨used, isUsed, le⟩ := ih more
        have bound := debt_of_reads stepped
        refine ⟨character :: used, by rw [isUsed]; rfl, ?_⟩
        rw [List.length_append, List.length_cons]
        omega

theorem length_of_readWord_plain (read : readWord text .plain = some (word, behind))
    {used : List Char} (isUsed : text = used ++ behind) (quoted : '\'' ∈ used) :
    word.length < used.length := by
  induction text generalizing word used with
  | nil =>
      obtain ⟨rfl, _⟩ := List.append_eq_nil_iff.mp isUsed.symm
      cases quoted
  | cons character rest ih =>
      cases used with
      | nil => cases quoted
      | cons first remaining =>
          obtain ⟨rfl, isRemaining⟩ := List.cons.inj isUsed
          rcases readWord_cons read with ⟨_, rfl, _⟩ | ⟨next, output, others, stepped, more, rfl⟩
          · exact Nat.succ_pos _
          · obtain ⟨used, isUsed, le⟩ := length_of_readWord more
            obtain rfl : remaining = used :=
              List.append_cancel_right (isRemaining.symm.trans isUsed)
            rcases step_plain_reads stepped with ⟨rfl, rfl, notQuote⟩ | rfl
            · have inRemaining : '\'' ∈ remaining :=
                (List.mem_cons.mp quoted).resolve_left (Ne.symm notQuote)
              have shorter := ih more isRemaining inRemaining
              rw [List.length_append, List.length_singleton, List.length_cons]
              omega
            · rw [List.nil_append, List.length_cons]
              omega

/-- A text that begins in the value of a definition, or at its end. -/
def Later (definitions : List Definition) (text : List Char) : Prop :=
  ∃ earlier defined others rest, definitions = earlier ++ defined :: others ∧
    rest <:+ defined.2 ++ ['\''] ∧ text = rest ++ '\n' :: script others

theorem Later.append (later : Later definitions text) (front : List Definition) :
    Later (front ++ definitions) text := by
  obtain ⟨earlier, defined, others, rest, rfl, isRest, isText⟩ := later
  exact ⟨front ++ earlier, defined, others, rest, (List.append_assoc ..).symm, isRest, isText⟩

/-- A word that begins in a line ends before its newline, or in a later line. -/
def EndsLater (front : List Char) (others : List Definition) (behind : List Char) : Prop :=
  (∃ rest, rest <:+ front ++ ['\''] ∧ behind = rest ++ '\n' :: script others) ∨
    Later others behind

/-- Between quotes nothing ends before the value of the next line. -/
theorem later_of_quoted (isQuoted : mode = .single ∨ mode = .double)
    (isIdentifier : IsIdentifier defined.1)
    (ends : ∀ next more, readWord (defined.2 ++ '\'' :: '\n' :: script others) next =
      some (more, behind) → EndsLater defined.2 others behind)
    (read : readWord (script (defined :: others)) mode = some (word, behind)) :
    Later (defined :: others) behind := by
  have same : ∀ character ∈ exportWord ++ ' ' :: (defined.1 ++ ['=']),
      step mode character = .reads mode [character] := by
    intro character member
    simp only [List.mem_append, List.mem_cons, List.not_mem_nil, or_false] at member
    rcases member with isExport | rfl | isName | rfl
    · exact step_nameCharacter (isName_export character isExport) mode (.inr isQuoted)
    · rcases isQuoted with rfl | rfl <;> decide
    · exact step_nameCharacter (isIdentifier.characters character isName) mode (.inr isQuoted)
    · exact step_equals (.inr isQuoted)
  have header : script (defined :: others) = (exportWord ++ ' ' :: (defined.1 ++ ['='])) ++
      '\'' :: (defined.2 ++ '\'' :: '\n' :: script others) := by
    simp [script_cons, line]
  rw [header, readWord_append same] at read
  obtain ⟨more, isMore, isWord⟩ := Option.map_eq_some_iff.mp read
  cases isWord
  rcases readWord_cons isMore with ⟨⟨isPlain, _⟩, _⟩ | ⟨next, output, after, _, isAfter, _⟩
  · subst isPlain
    rcases isQuoted with isPlain | isPlain <;> cases isPlain
  · rcases ends next after isAfter with ⟨rest, isRest, isBehind⟩ | later
    · exact ⟨[], defined, others, rest, rfl, isRest, isBehind⟩
    · exact later.append [defined]

theorem quoted_of_newline {next after : Mode} {output more : List Char}
    (quote : step mode '\'' = .reads next output)
    (newline : step next '\n' = .reads after more) :
    after = .single ∨ after = .double := by
  cases mode <;> rw [step] at quote
  all_goals cases quote
  all_goals cases newline
  all_goals simp

theorem endsLater_of_newline
    (beyond : ∀ mode word, (mode = .single ∨ mode = .double) →
      readWord (script others) mode = some (word, behind) → Later others behind)
    (read : readWord (front ++ '\'' :: '\n' :: script others) mode = some (word, behind)) :
    EndsLater front others behind := by
  induction front generalizing mode word with
  | nil =>
      rcases readWord_cons read with ⟨_, _, rfl⟩ | ⟨next, output, more, quote, isMore, _⟩
      · exact .inl ⟨['\''], List.suffix_refl _, rfl⟩
      · rcases readWord_cons isMore with ⟨_, _, rfl⟩ | ⟨after, _, word, newline, isWord, _⟩
        · exact .inl ⟨[], List.nil_suffix, rfl⟩
        · exact .inr (beyond after word (quoted_of_newline quote newline) isWord)
  | cons character front ih =>
      rcases readWord_cons read with ⟨_, _, rfl⟩ | ⟨next, output, more, _, isMore, _⟩
      · exact .inl ⟨character :: front ++ ['\''], List.suffix_refl _, by simp⟩
      · rcases ih isMore with ⟨rest, isRest, isBehind⟩ | later
        · exact .inl ⟨rest, isRest.trans (List.suffix_cons character _), isBehind⟩
        · exact .inr later

theorem readWord_line (areIdentifiers : ∀ defined ∈ others, IsIdentifier defined.1)
    (read : readWord (front ++ '\'' :: '\n' :: script others) mode = some (word, behind)) :
    EndsLater front others behind := by
  induction others generalizing front mode word with
  | nil =>
      refine endsLater_of_newline (fun mode word isQuoted read => ?_) read
      rcases isQuoted with rfl | rfl <;> cases read
  | cons defined others ih =>
      obtain ⟨isIdentifier, areIdentifiers⟩ := List.forall_mem_cons.mp areIdentifiers
      exact endsLater_of_newline (fun mode word isQuoted read =>
        later_of_quoted isQuoted isIdentifier (fun next more => ih areIdentifiers) read) read

/-- In step with the lines, the first variable of a line is the first that is defined. -/
theorem name_of_commands (isIdentifier : IsIdentifier defined.1)
    (defines : commands fuel (script (defined :: others)) .start = some definitions) :
    ∃ value more, definitions = (defined.1, value) :: more ∧ ∃ fewer behind,
      readWord (defined.2 ++ '\'' :: '\n' :: script others) .single = some (value, behind) ∧
      commands fewer behind .given = some more := by
  rw [script_cons] at defines
  obtain ⟨fuel, rfl⟩ : ∃ fewer, fuel = fewer + 3 := by
    match fuel with
    | 0 => cases defines
    | 1 => rw [commands_export] at defines; cases defines
    | 2 => rw [commands_export, commands_blank] at defines; cases defines
    | fuel + 3 => exact ⟨fuel, rfl⟩
  rw [commands_line isIdentifier] at defines
  cases read : readWord (defined.2 ++ '\'' :: '\n' :: script others) .single with
  | none =>
      rw [read] at defines
      cases defines
  | some found =>
      rw [read] at defines
      obtain ⟨more, isMore, same⟩ := Option.map_eq_some_iff.mp defines
      exact ⟨found.1, more, same.symm, fuel, found.2, rfl, isMore⟩

theorem length_of_definition (isDefinition : definition word = some defined) :
    defined.2.length + 2 ≤ word.length := by
  rw [definition] at isDefinition
  split at isDefinition
  · rename_i both
    cases isDefinition
    have nonempty := List.length_pos_of_ne_nil both.2.nonempty
    have parts := congrArg List.length
      (List.takeWhile_append_dropWhile (p := (· ≠ '=')) (l := word))
    have rest : (word.dropWhile (· ≠ '=')) ≠ [] := by
      intro none
      have allOther := List.dropWhile_eq_nil_iff.mp none '=' both.1
      simp at allOther
    have restNonempty := List.length_pos_of_ne_nil rest
    rw [List.length_append] at parts
    rw [List.length_tail]
    omega
  · cases isDefinition

/-- Where a word that begins in a value ends. -/
theorem later_of_word (areIdentifiers : ∀ defined ∈ others, IsIdentifier defined.1)
    (isRest : rest <:+ defined.2 ++ ['\'']) (nonempty : rest ≠ [])
    (read : readWord (rest ++ '\n' :: script others) .plain = some (word, behind)) :
    (∀ earlier, Later (earlier ++ defined :: others) behind) ∧
      (definition word = some defined → Later others behind) := by
  obtain ⟨front, rfl, _⟩ := (List.suffix_concat_iff.mp isRest).resolve_left nonempty
  obtain ⟨used, isUsed, short⟩ := length_of_readWord read
  have whole := congrArg List.length isUsed
  rw [List.append_assoc] at read
  rcases readWord_line areIdentifiers read with ⟨left, isLeft, rfl⟩ | later
  · refine ⟨fun earlier => ⟨earlier, defined, others, left, rfl, isLeft.trans isRest, rfl⟩,
      fun isDefinition => ?_⟩
    have long := length_of_definition isDefinition
    have le := isRest.length_le
    simp only [List.length_append, List.length_cons, List.length_nil] at whole le
    omega
  · exact ⟨fun earlier => (later.append [defined]).append earlier, fun _ => later⟩

theorem not_commands_of_script (areIdentifiers : ∀ defined ∈ others, IsIdentifier defined.1)
    {earlier : List Definition}
    (distinct : ((earlier ++ defined :: others).map Prod.fst).Nodup) :
    commands fuel (script others) .start ≠ some (earlier ++ defined :: others) := by
  intro defines
  cases others with
  | nil =>
      cases fuel with
      | zero => cases defines
      | succ fuel =>
          have empty : [] = earlier ++ [defined] := Option.some.inj defines
          simp at empty
  | cons next others =>
      obtain ⟨value, more, same, _⟩ :=
        name_of_commands (areIdentifiers next List.mem_cons_self) defines
      rw [same] at distinct
      have inMore : next ∈ more := by
        cases earlier with
        | nil =>
            obtain ⟨_, rfl⟩ := List.cons.inj same
            exact List.mem_cons_self
        | cons first earlier =>
            obtain ⟨_, rfl⟩ := List.cons.inj same
            simp
      have inNames : next.1 ∈ more.map Prod.fst := List.mem_map_of_mem inMore
      exact (List.nodup_cons.mp distinct).1 inNames

theorem dropWhile_comment (rest text : List Char) :
    (rest ++ '\n' :: text).dropWhile (· ≠ '\n') =
      rest.dropWhile (· ≠ '\n') ++ '\n' :: text := by
  induction rest with
  | nil => rfl
  | cons character rest ih =>
      by_cases isNewline : character = '\n'
      · subst isNewline
        rfl
      · have goesOn : decide (character ≠ '\n') = true := decide_eq_true isNewline
        rw [List.cons_append, List.dropWhile_cons, if_pos goesOn, ih, List.dropWhile_cons,
          if_pos goesOn]

theorem not_commands_of_later (areIdentifiers : ∀ defined ∈ definitions, IsIdentifier defined.1)
    (distinct : (definitions.map Prod.fst).Nodup) (later : Later definitions text) :
    commands fuel text phase ≠ some definitions := by
  induction fuel generalizing definitions text phase with
  | zero => exact fun none => by cases none
  | succ fuel ih =>
      obtain ⟨earlier, defined, others, rest, rfl, isRest, rfl⟩ := later
      have areOthers : ∀ defined ∈ others, IsIdentifier defined.1 := fun other member =>
        areIdentifiers other (List.mem_append_right _ (List.mem_cons_of_mem _ member))
      have goesOn (left : List Char) (phase : Phase) (isLeft : left <:+ rest) :
          commands fuel (left ++ '\n' :: script others) phase ≠
            some (earlier ++ defined :: others) :=
        ih areIdentifiers distinct ⟨earlier, defined, others, left, rfl, isLeft.trans isRest, rfl⟩
      cases rest with
      | nil =>
          rw [List.nil_append, commands, if_neg (by decide), if_pos rfl]
          split
          · exact nofun
          · exact not_commands_of_script areOthers distinct
      | cons character rest =>
          have isTail : rest <:+ character :: rest := List.suffix_cons character rest
          rw [List.cons_append, commands]
          split
          · exact goesOn rest phase isTail
          split
          · split
            · exact nofun
            · exact goesOn rest .start isTail
          split
          · split
            · exact goesOn rest .start isTail
            · exact nofun
          split
          · rw [dropWhile_comment]
            exact goesOn _ phase ((List.dropWhile_suffix _).trans isTail)
          split
          · rename_i continues
            obtain ⟨rfl, isNewline⟩ := continues
            cases rest with
            | nil =>
                obtain ⟨front, same, _⟩ :=
                  (List.suffix_concat_iff.mp isRest).resolve_left (List.cons_ne_nil _ _)
                have last := congrArg List.getLast? same
                rw [List.getLast?_concat] at last
                cases last
            | cons next rest =>
                exact goesOn rest phase ((List.suffix_cons next rest).trans isTail)
          cases read : readWord (character :: (rest ++ '\n' :: script others)) .plain with
          | none => exact nofun
          | some found =>
              obtain ⟨word, behind⟩ := found
              obtain ⟨whole, remaining⟩ :=
                later_of_word areOthers isRest (List.cons_ne_nil _ _) read
              dsimp only
              split
              · split
                · exact ih areIdentifiers distinct (whole earlier)
                · exact nofun
              · cases isDefinition : definition word with
                | none => exact nofun
                | some first =>
                    intro defines
                    obtain ⟨more, isMore, same⟩ := Option.map_eq_some_iff.mp defines
                    clear goesOn
                    cases earlier with
                    | nil =>
                        obtain ⟨rfl, rfl⟩ := List.cons.inj same
                        exact ih areOthers distinct.of_cons (remaining isDefinition) isMore
                    | cons head earlier =>
                        obtain ⟨rfl, rfl⟩ := List.cons.inj same
                        exact ih (List.forall_mem_cons.mp areIdentifiers).2 distinct.of_cons
                          (whole earlier) isMore

/-- A value with a quote is not what is defined, or the word goes on in the lines behind it. -/
theorem later_of_quote (areIdentifiers : ∀ defined ∈ others, IsIdentifier defined.1)
    (quoted : '\'' ∈ value)
    (read : readWord (value ++ '\'' :: '\n' :: script others) .single = some (value, behind)) :
    Later others behind := by
  obtain ⟨front, rest, rfl, noQuote⟩ := List.eq_append_cons_of_mem quoted
  rw [List.append_assoc, List.cons_append, readWord_quoted noQuote] at read
  obtain ⟨⟨word, after⟩, isWord, same⟩ := Option.map_eq_some_iff.mp read
  obtain ⟨isValue, rfl⟩ := Prod.mk.inj same
  obtain rfl : word = '\'' :: rest := List.append_cancel_left isValue
  refine (readWord_line areIdentifiers isWord).resolve_left ?_
  rintro ⟨left, isLeft, rfl⟩
  obtain ⟨used, isUsed, short⟩ := length_of_readWord isWord
  have whole : (rest ++ ['\'']) ++ '\n' :: script others =
      (used ++ left) ++ '\n' :: script others := by
    rwa [List.append_assoc, List.append_assoc]
  have parts := List.append_cancel_right whole
  have lengths := congrArg List.length parts
  simp only [List.length_append, List.length_cons, List.length_nil] at lengths short
  have inUsed : '\'' ∈ used := by
    obtain rfl : left = [] := List.length_eq_zero_iff.mp (by omega)
    rw [List.append_nil] at parts
    rw [← parts]
    simp
  have shorter := length_of_readWord_plain isWord isUsed inUsed
  rw [List.length_cons] at shorter
  omega

theorem noQuotes_of_commands
    (areIdentifiers : ∀ defined ∈ definitions, IsIdentifier defined.1)
    (distinct : (definitions.map Prod.fst).Nodup)
    (defines : commands fuel (script definitions) .start = some definitions) :
    ∀ defined ∈ definitions, '\'' ∉ defined.2 := by
  induction definitions generalizing fuel with
  | nil => exact List.forall_mem_nil _
  | cons defined others ih =>
      obtain ⟨isIdentifier, areOthers⟩ := List.forall_mem_cons.mp areIdentifiers
      obtain ⟨value, more, same, fewer, behind, read, isMore⟩ :=
        name_of_commands isIdentifier defines
      obtain ⟨isDefined, rfl⟩ := List.cons.inj same
      obtain rfl : defined.2 = value := congrArg Prod.snd isDefined
      have noQuote : '\'' ∉ defined.2 := fun quoted =>
        not_commands_of_later areOthers distinct.of_cons (later_of_quote areOthers quoted read)
          isMore
      rw [readWord_quoted noQuote, readWord_of_ends (by decide), Option.map_some] at read
      obtain ⟨_, rfl⟩ := Prod.mk.inj (Option.some.inj read)
      refine List.forall_mem_cons.mpr ⟨noQuote, ?_⟩
      cases fewer with
      | zero => cases isMore
      | succ fewer => exact ih areOthers distinct.of_cons isMore

/-- A script with each value between single quotes defines what it was made of exactly if there is
no quote in any value. -/
theorem source_script_iff (areIdentifiers : ∀ defined ∈ definitions, IsIdentifier defined.1)
    (distinct : (definitions.map Prod.fst).Nodup) (isText : '\x00' ∉ script definitions) :
    source (script definitions) = some definitions ↔
      ∀ defined ∈ definitions, '\'' ∉ defined.2 := by
  rw [source, if_neg isText]
  exact ⟨noQuotes_of_commands areIdentifiers distinct,
    fun noQuotes => commands_script areIdentifiers noQuotes (Nat.lt_succ_self _)⟩

end ShellScript
