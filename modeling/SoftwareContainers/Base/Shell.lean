import Mathlib.Data.List.Basic

namespace Shell

/-! How a command line is split into arguments by `g_shell_parse_argv`: first into tokens,
which keep their quotes, and then each token is unquoted. -/

inductive Quote where
  | unquoted
  | escape
  | comment
  | skipping
  | single
  | double
  deriving DecidableEq

abbrev Token := Option (List Char)

def Token.push (token : Token) (characters : List Char) : Token :=
  some (token.getD [] ++ characters)

/-- A `#` is a comment at the beginning, and behind a blank or a newline. -/
def startsComment : Option Char → Bool
  | none => true
  | some previous => previous = ' ' || previous = '\n'

/-- `tokenize_command_line`; `escaped` counts the backslashes before, modulo two. -/
def tokenize : List Char → Quote → Bool → Option Char → Token → Option (List (List Char))
  | [], quote, _, _, token =>
      match quote with
      | .unquoted | .skipping => some token.toList
      | .escape | .comment | .single | .double => none
  | character :: rest, quote, escaped, previous, token =>
      let nowEscaped := character = '\\' && !escaped
      match quote with
      | .escape =>
          if character = '\n' then tokenize rest .unquoted nowEscaped (some character) token
          else
            tokenize rest .unquoted nowEscaped (some character) (token.push ['\\', character])
      | .comment | .skipping =>
          if character = '\n' then tokenize rest .unquoted false (some character) token
          else tokenize rest .skipping false (some character) token
      | .single =>
          tokenize rest (if character = '\'' then .unquoted else .single) nowEscaped
            (some character) (token.push [character])
      | .double =>
          tokenize rest (if character = '"' && !escaped then .unquoted else .double) nowEscaped
            (some character) (token.push [character])
      | .unquoted =>
          if character = '\n' ∨ character = ' ' ∨ character = '\t' then
            match token with
            | none => tokenize rest .unquoted nowEscaped (some character) none
            | some token =>
                (tokenize rest .unquoted nowEscaped (some character) none).map (token :: ·)
          else if character = '\'' then
            tokenize rest .single nowEscaped (some character) (token.push [character])
          else if character = '"' then
            tokenize rest .double nowEscaped (some character) (token.push [character])
          else if character = '\\' then
            tokenize rest .escape nowEscaped (some character) token
          else if character = '#' ∧ startsComment previous then
            tokenize rest .comment nowEscaped (some character) token
          else
            tokenize rest .unquoted nowEscaped (some character) (token.push [character])

inductive Unquoting where
  | plain
  | escape
  | single
  | double
  | doubleEscape
  deriving DecidableEq

def unquote : List Char → Unquoting → Option (List Char)
  | [], .plain | [], .escape => some []
  | [], .single | [], .double | [], .doubleEscape => none
  | character :: rest, .plain =>
      if character = '\\' then unquote rest .escape
      else if character = '"' then unquote rest .double
      else if character = '\'' then unquote rest .single
      else (unquote rest .plain).map (character :: ·)
  | character :: rest, .escape =>
      if character = '\n' then unquote rest .plain
      else (unquote rest .plain).map (character :: ·)
  | character :: rest, .single =>
      if character = '\'' then unquote rest .plain
      else (unquote rest .single).map (character :: ·)
  | character :: rest, .double =>
      if character = '"' then unquote rest .plain
      else if character = '\\' then unquote rest .doubleEscape
      else (unquote rest .double).map (character :: ·)
  | character :: rest, .doubleEscape =>
      if character ∈ ['"', '\\', '`', '$', '\n'] then
        (unquote rest .double).map (character :: ·)
      else (unquote rest .double).map ('\\' :: character :: ·)

/-- The arguments; there is none where a quote is not closed, and for an empty command. -/
def parseArgv (command : List Char) : Option (List (List Char)) :=
  match tokenize command .unquoted false none none with
  | none | some [] => none
  | some tokens => tokens.mapM (unquote · .plain)

example : parseArgv "a 'b c' \"d\\\"e\" f\\ g #h".toList =
    some ["a".toList, "b c".toList, "d\"e".toList, "f g".toList] := by
  decide

/-! What passes unchanged. -/

def isBlank (character : Char) : Bool :=
  character = '\n' || character = ' ' || character = '\t'

def isQuote (character : Char) : Bool :=
  character = '\'' || character = '"' || character = '\\'

/-- A word that is one argument by itself. -/
structure Plain (word : List Char) : Prop where
  nonempty : word ≠ []
  characters : ∀ character ∈ word, isBlank character = false ∧ isQuote character = false
  noComment : word.head? ≠ some '#'

instance (word : List Char) : Decidable (Plain word) :=
  decidable_of_iff (word ≠ [] ∧
      word.all (fun character => !isBlank character && !isQuote character) = true ∧
      word.head? ≠ some '#')
    ⟨fun holds => ⟨holds.1, by simpa using holds.2.1, holds.2.2⟩,
      fun plain => ⟨plain.nonempty, by simpa using plain.characters, plain.noComment⟩⟩

/-! Nothing is added: there are at most as many characters in the tokens, with one for each
of them, as in what they are read from. -/

def weight : List (List Char) → Nat
  | [] => 0
  | word :: rest => word.length + 1 + weight rest

@[simp] theorem weight_nil : weight [] = 0 := rfl

@[simp] theorem weight_cons (word : List Char) (rest : List (List Char)) :
    weight (word :: rest) = word.length + 1 + weight rest := rfl

def Token.size (token : Token) : Nat := (token.getD []).length

theorem Token.size_push (token : Token) (characters : List Char) :
    (token.push characters).size = token.size + characters.length := by
  rw [size, push, Option.getD_some, List.length_append, size]

def Quote.pending : Quote → Nat
  | .escape => 1
  | _ => 0

theorem weight_tokenize {text : List Char} {quote : Quote} {escaped : Bool}
    {previous : Option Char} {token : Token} {tokens : List (List Char)}
    (tokenized : tokenize text quote escaped previous token = some tokens) :
    weight tokens ≤ text.length + token.size + quote.pending + 1 := by
  induction text generalizing quote escaped previous token tokens with
  | nil =>
      unfold tokenize at tokenized
      cases quote with
      | unquoted | skipping =>
          cases tokenized
          cases token with
          | none => exact Nat.zero_le _
          | some token =>
              rw [Option.toList_some, weight_cons, weight_nil, Token.size, Option.getD_some]
              omega
      | escape | comment | single | double => cases tokenized
  | cons character rest ih =>
      unfold tokenize at tokenized
      rw [List.length_cons]
      cases quote with
      | escape =>
          dsimp only at tokenized
          split at tokenized
          · have bound := ih tokenized
            simp only [Quote.pending] at bound ⊢
            omega
          · have bound := ih tokenized
            simp only [Quote.pending, Token.size_push, List.length_cons, List.length_nil]
              at bound ⊢
            omega
      | comment | skipping =>
          dsimp only at tokenized
          split at tokenized
          · have bound := ih tokenized
            simp only [Quote.pending] at bound ⊢
            omega
          · have bound := ih tokenized
            simp only [Quote.pending] at bound ⊢
            omega
      | single | double =>
          have bound := ih tokenized
          rw [Token.size_push] at bound
          have none : ∀ closes : Prop, ∀ [Decidable closes], ∀ inside : Quote,
              inside.pending = 0 → (if closes then Quote.unquoted else inside).pending = 0 := by
            intro closes _ inside same
            split
            · rfl
            · exact same
          rw [none _ _ rfl] at bound
          simp only [Quote.pending, List.length_cons, List.length_nil] at bound ⊢
          omega
      | unquoted =>
          dsimp only at tokenized
          split at tokenized
          · cases token with
            | none =>
                have bound := ih tokenized
                simp only [Quote.pending] at bound ⊢
                omega
            | some token =>
                obtain ⟨others, isOthers, rfl⟩ := Option.map_eq_some_iff.mp tokenized
                have bound := ih isOthers
                simp only [weight_cons, Quote.pending, Token.size, Option.getD_some,
                  Option.getD_none, List.length_nil] at bound ⊢
                omega
          · split at tokenized
            · have bound := ih tokenized
              simp only [Quote.pending, Token.size_push, List.length_cons, List.length_nil]
                at bound ⊢
              omega
            · split at tokenized
              · have bound := ih tokenized
                simp only [Quote.pending, Token.size_push, List.length_cons, List.length_nil]
                  at bound ⊢
                omega
              · split at tokenized
                · have bound := ih tokenized
                  simp only [Quote.pending] at bound ⊢
                  omega
                · split at tokenized
                  · have bound := ih tokenized
                    simp only [Quote.pending] at bound ⊢
                    omega
                  · have bound := ih tokenized
                    simp only [Quote.pending, Token.size_push, List.length_cons,
                      List.length_nil] at bound ⊢
                    omega

theorem tokenize_begins {text : List Char} {quote : Quote} {escaped : Bool}
    {previous : Option Char} {token : List Char} {tokens : List (List Char)}
    (tokenized : tokenize text quote escaped previous (some token) = some tokens) :
    ∃ more rest, tokens = (token ++ more) :: rest := by
  induction text generalizing quote escaped previous token tokens with
  | nil =>
      unfold tokenize at tokenized
      cases quote with
      | unquoted | skipping =>
          cases tokenized
          exact ⟨[], [], by rw [List.append_nil]; rfl⟩
      | escape | comment | single | double => cases tokenized
  | cons character rest ih =>
      have pushed {quote : Quote} {escaped : Bool} {characters : List Char}
          (later : tokenize rest quote escaped (some character)
            (Token.push (some token) characters) = some tokens) :
          ∃ more others, tokens = (token ++ more) :: others := by
        obtain ⟨more, others, same⟩ := ih later
        exact ⟨characters ++ more, others, by rw [same, Option.getD_some, List.append_assoc]⟩
      unfold tokenize at tokenized
      cases quote with
      | escape =>
          dsimp only at tokenized
          split at tokenized
          · exact ih tokenized
          · exact pushed tokenized
      | comment | skipping =>
          dsimp only at tokenized
          split at tokenized
          · exact ih tokenized
          · exact ih tokenized
      | single | double => exact pushed tokenized
      | unquoted =>
          dsimp only at tokenized
          split at tokenized
          · obtain ⟨others, _, rfl⟩ := Option.map_eq_some_iff.mp tokenized
            exact ⟨[], others, by rw [List.append_nil]⟩
          · split at tokenized
            · exact pushed tokenized
            · split at tokenized
              · exact pushed tokenized
              · split at tokenized
                · exact ih tokenized
                · split at tokenized
                  · exact ih tokenized
                  · exact pushed tokenized

/-! Unquoting adds nothing either, and leaves out every quote. -/

def Unquoting.pending : Unquoting → Nat
  | .doubleEscape => 1
  | _ => 0

theorem length_unquote {token word : List Char} {state : Unquoting}
    (unquoted : unquote token state = some word) :
    word.length ≤ token.length + state.pending := by
  induction token generalizing state word with
  | nil =>
      cases state with
      | plain | escape =>
          cases unquoted
          exact Nat.zero_le _
      | single | double | doubleEscape => cases unquoted
  | cons character rest ih =>
      have step {state : Unquoting} {front : List Char} (later : List Char)
          (isLater : unquote rest state = some later)
          (same : word = front ++ later) : word.length ≤ front.length + rest.length +
            state.pending := by
        have bound := ih isLater
        rw [same, List.length_append]
        omega
      have mapped {state : Unquoting} {front : List Char}
          (isMapped : (unquote rest state).map (front ++ ·) = some word) :
          word.length ≤ front.length + rest.length + state.pending := by
        obtain ⟨later, isLater, same⟩ := Option.map_eq_some_iff.mp isMapped
        exact step later isLater same.symm
      rw [List.length_cons]
      cases state with
      | plain =>
          rw [unquote] at unquoted
          split at unquoted
          · have bound := ih unquoted
            simp only [Unquoting.pending] at bound ⊢
            omega
          · split at unquoted
            · have bound := ih unquoted
              simp only [Unquoting.pending] at bound ⊢
              omega
            · split at unquoted
              · have bound := ih unquoted
                simp only [Unquoting.pending] at bound ⊢
                omega
              · have bound := @mapped .plain [character] unquoted
                simp only [Unquoting.pending, List.length_singleton] at bound ⊢
                omega
      | escape =>
          rw [unquote] at unquoted
          split at unquoted
          · have bound := ih unquoted
            simp only [Unquoting.pending] at bound ⊢
            omega
          · have bound := @mapped .plain [character] unquoted
            simp only [Unquoting.pending, List.length_singleton] at bound ⊢
            omega
      | single =>
          rw [unquote] at unquoted
          split at unquoted
          · have bound := ih unquoted
            simp only [Unquoting.pending] at bound ⊢
            omega
          · have bound := @mapped .single [character] unquoted
            simp only [Unquoting.pending, List.length_singleton] at bound ⊢
            omega
      | double =>
          rw [unquote] at unquoted
          split at unquoted
          · have bound := ih unquoted
            simp only [Unquoting.pending] at bound ⊢
            omega
          · split at unquoted
            · have bound := ih unquoted
              simp only [Unquoting.pending] at bound ⊢
              omega
            · have bound := @mapped .double [character] unquoted
              simp only [Unquoting.pending, List.length_singleton] at bound ⊢
              omega
      | doubleEscape =>
          rw [unquote] at unquoted
          split at unquoted
          · have bound := @mapped .double [character] unquoted
            simp only [Unquoting.pending, List.length_singleton] at bound ⊢
            omega
          · have bound := @mapped .double ['\\', character] unquoted
            simp only [Unquoting.pending, List.length_cons, List.length_nil] at bound ⊢
            omega

theorem unquote_eq_self {token : List Char}
    (noQuote : ∀ character ∈ token, isQuote character = false) :
    unquote token .plain = some token := by
  induction token with
  | nil => rfl
  | cons character rest ih =>
      obtain ⟨first, others⟩ := List.forall_mem_cons.mp noQuote
      simp only [isQuote, Bool.or_eq_false_iff, decide_eq_false_iff_not] at first
      rw [unquote, if_neg first.2, if_neg first.1.2, if_neg first.1.1, ih others]
      rfl

theorem noQuote_of_length {token word : List Char}
    (unquoted : unquote token .plain = some word) (length : word.length = token.length) :
    (∀ character ∈ token, isQuote character = false) ∧ word = token := by
  induction token generalizing word with
  | nil =>
      cases unquoted
      exact ⟨List.forall_mem_nil _, rfl⟩
  | cons character rest ih =>
      rw [List.length_cons] at length
      have lost {state : Unquoting} (later : unquote rest state = some word)
          (none : state.pending = 0) : False := by
        have bound := length_unquote later
        omega
      rw [unquote] at unquoted
      split at unquoted
      · exact (lost unquoted rfl).elim
      · rename_i noBackslash
        split at unquoted
        · exact (lost unquoted rfl).elim
        · rename_i noDouble
          split at unquoted
          · exact (lost unquoted rfl).elim
          · rename_i noSingle
            obtain ⟨later, isLater, rfl⟩ := Option.map_eq_some_iff.mp unquoted
            rw [List.length_cons] at length
            obtain ⟨noQuote, rfl⟩ := ih isLater (Nat.succ.inj length)
            refine ⟨List.forall_mem_cons.mpr ⟨?_, noQuote⟩, rfl⟩
            simp [isQuote, noBackslash, noDouble, noSingle]

theorem weight_unquote {tokens words : List (List Char)}
    (unquoted : tokens.mapM (unquote · .plain) = some words) :
    weight words ≤ weight tokens ∧ (weight words = weight tokens →
      (∀ token ∈ tokens, ∀ character ∈ token, isQuote character = false) ∧ words = tokens) := by
  induction tokens generalizing words with
  | nil =>
      cases unquoted
      exact ⟨Nat.le_refl _, fun _ => ⟨List.forall_mem_nil _, rfl⟩⟩
  | cons token rest ih =>
      rw [List.mapM_cons, Option.bind_eq_bind, Option.bind_eq_some_iff] at unquoted
      obtain ⟨word, isWord, unquoted⟩ := unquoted
      rw [Option.bind_eq_bind, Option.bind_eq_some_iff] at unquoted
      obtain ⟨others, areOthers, unquoted⟩ := unquoted
      cases unquoted
      obtain ⟨bound, exact⟩ := ih areOthers
      have length := length_unquote isWord
      simp only [Unquoting.pending] at length
      rw [weight_cons, weight_cons]
      refine ⟨by omega, fun same => ?_⟩
      obtain ⟨noQuote, rfl⟩ := noQuote_of_length isWord (by omega)
      obtain ⟨others, rfl⟩ := exact (by omega)
      exact ⟨List.forall_mem_cons.mpr ⟨noQuote, others⟩, rfl⟩

/-! Where nothing is lost, the text is its words with one blank between them. -/

/-- A word without blanks and quotes; behind a tab it may begin with `#`. -/
structure Unbroken (afterTab : Prop) (word : List Char) : Prop where
  nonempty : word ≠ []
  characters : ∀ character ∈ word, isBlank character = false ∧ isQuote character = false
  noComment : word.head? = some '#' → afterTab

theorem unbroken_of_weight {afterTab : Prop} {text : List Char} {escaped : Bool}
    {previous : Option Char} {token : Token} {tokens : List (List Char)}
    (tokenized : tokenize text .unquoted escaped previous token = some tokens)
    (noQuote : ∀ word ∈ tokens, ∀ character ∈ word, isQuote character = false)
    (equal : weight tokens = text.length + token.size + 1)
    (tab : '\t' ∈ text → afterTab) (begun : ∀ word, token = some word → Unbroken afterTab word)
    (begins : token = none → startsComment previous = true ∨ afterTab) :
    ∀ word ∈ tokens, Unbroken afterTab word := by
  induction text generalizing escaped previous token tokens with
  | nil =>
      cases tokenized
      cases token with
      | none => exact List.forall_mem_nil _
      | some word => exact List.forall_mem_singleton.mpr (begun word rfl)
  | cons character rest ih =>
      have laterTab : '\t' ∈ rest → afterTab := fun member => tab (List.mem_cons_of_mem _ member)
      -- what is pushed into the token shows in the first of the tokens
      have pushed {characters : List Char} {quote : Quote} {escaped : Bool}
          (later : tokenize rest quote escaped (some character) (token.push characters) =
            some tokens) : ∀ pushed ∈ characters, isQuote pushed = false := by
        obtain ⟨more, others, rfl⟩ := tokenize_begins later
        intro other member
        exact noQuote _ List.mem_cons_self other
          (List.mem_append_left _ (List.mem_append_right _ member))
      rw [List.length_cons] at equal
      unfold tokenize at tokenized
      dsimp only at tokenized
      split at tokenized
      · rename_i blank
        cases token with
        | none =>
            have bound := weight_tokenize tokenized
            simp only [Quote.pending] at bound
            omega
        | some word =>
            obtain ⟨others, isOthers, rfl⟩ := Option.map_eq_some_iff.mp tokenized
            obtain ⟨_, noQuote⟩ := List.forall_mem_cons.mp noQuote
            simp only [weight_cons, Token.size, Option.getD_some] at equal
            refine List.forall_mem_cons.mpr ⟨begun word rfl,
              ih isOthers noQuote ?_ laterTab nofun fun _ => ?_⟩
            · simp only [Token.size, Option.getD_none, List.length_nil]
              omega
            · rcases blank with rfl | rfl | rfl
              · exact .inl (by decide)
              · exact .inl (by decide)
              · exact .inr (tab List.mem_cons_self)
      · rename_i noBlank
        split at tokenized
        · rename_i isSingle
          have none := pushed tokenized character List.mem_cons_self
          rw [isSingle] at none
          exact absurd none (by decide)
        · rename_i noSingle
          split at tokenized
          · rename_i isDouble
            have none := pushed tokenized character List.mem_cons_self
            rw [isDouble] at none
            exact absurd none (by decide)
          · rename_i noDouble
            split at tokenized
            · rename_i isBackslash
              cases rest with
              | nil => cases tokenized
              | cons next rest =>
                  unfold tokenize at tokenized
                  dsimp only at tokenized
                  split at tokenized
                  · have bound := weight_tokenize tokenized
                    simp only [Quote.pending] at bound
                    rw [List.length_cons] at equal
                    omega
                  · obtain ⟨more, others, rfl⟩ := tokenize_begins tokenized
                    have none := noQuote _ List.mem_cons_self '\\'
                      (List.mem_append_left _ (List.mem_append_right _ List.mem_cons_self))
                    exact absurd none (by decide)
            · rename_i noBackslash
              split at tokenized
              · have bound := weight_tokenize tokenized
                simp only [Quote.pending] at bound
                omega
              · rename_i noComment
                refine ih tokenized noQuote ?_ laterTab ?_ nofun
                · rw [Token.size_push, List.length_singleton]
                  omega
                · rintro word same
                  cases same
                  have ordinary : isBlank character = false ∧ isQuote character = false := by
                    simp only [not_or] at noBlank
                    simp [isBlank, isQuote, noBlank, noSingle, noDouble, noBackslash]
                  cases token with
                  | none =>
                      refine ⟨by simp, ?_, fun head => ?_⟩
                      · exact List.forall_mem_singleton.mpr ordinary
                      · have same : character = '#' := Option.some.inj head
                        rcases begins rfl with starts | after
                        · exact absurd ⟨same, starts⟩ noComment
                        · exact after
                  | some word =>
                      have unbroken := begun word rfl
                      refine ⟨by simp, ?_, fun head => ?_⟩
                      · exact List.forall_mem_append.mpr
                          ⟨unbroken.characters, List.forall_mem_singleton.mpr ordinary⟩
                      · rw [Option.getD_some, List.head?_append_of_ne_nil _ unbroken.nonempty]
                          at head
                        exact unbroken.noComment head

/-! A plain word passes unchanged. -/

theorem tokenize_characters {word : List Char}
    (ordinary : ∀ character ∈ word, isBlank character = false ∧ isQuote character = false)
    (rest token : List Char) {previous : Char} (noBlank : isBlank previous = false) :
    ∃ last, isBlank last = false ∧
      tokenize (word ++ rest) .unquoted false (some previous) (some token) =
        tokenize rest .unquoted false (some last) (some (token ++ word)) := by
  induction word generalizing token previous with
  | nil => exact ⟨previous, noBlank, by rw [List.nil_append, List.append_nil]⟩
  | cons character word ih =>
      obtain ⟨first, others⟩ := List.forall_mem_cons.mp ordinary
      obtain ⟨last, lastBlank, later⟩ := ih others (token ++ [character]) first.1
      refine ⟨last, lastBlank, ?_⟩
      rw [List.append_assoc, List.singleton_append] at later
      rw [← later, List.cons_append]
      conv_lhs => unfold tokenize
      simp only [isBlank, isQuote, Bool.or_eq_false_iff, decide_eq_false_iff_not] at first noBlank
      have noComment : ¬ (character = '#' ∧ startsComment (some previous) = true) := by
        simp [startsComment, noBlank]
      dsimp only
      rw [if_neg (by simp [first]), if_neg first.2.1.1, if_neg first.2.1.2, if_neg first.2.2,
        if_neg noComment, decide_eq_false first.2.2]
      rfl

theorem tokenize_word {word : List Char} (plain : Plain word) (rest : List Char)
    (previous : Option Char) :
    ∃ last, isBlank last = false ∧
      tokenize (word ++ rest) .unquoted false previous none =
        tokenize rest .unquoted false (some last) (some word) := by
  obtain ⟨nonempty, ordinary, noComment⟩ := plain
  cases word with
  | nil => exact absurd rfl nonempty
  | cons character word =>
      obtain ⟨first, others⟩ := List.forall_mem_cons.mp ordinary
      obtain ⟨last, lastBlank, later⟩ := tokenize_characters others rest [character] first.1
      refine ⟨last, lastBlank, ?_⟩
      rw [List.singleton_append] at later
      rw [← later, List.cons_append]
      conv_lhs => unfold tokenize
      simp only [isBlank, isQuote, Bool.or_eq_false_iff, decide_eq_false_iff_not] at first
      have noHash : ¬ (character = '#' ∧ startsComment previous = true) :=
        fun comment => noComment (congrArg some comment.1)
      dsimp only
      rw [if_neg (by simp [first]), if_neg first.2.1.1, if_neg first.2.1.2, if_neg first.2.2,
        if_neg noHash, decide_eq_false first.2.2]
      rfl

def joined : List (List Char) → List Char := List.intercalate [' ']

theorem tokenize_joined {words : List (List Char)} (nonempty : words ≠ [])
    (plain : ∀ word ∈ words, Plain word) (previous : Option Char) :
    tokenize (joined words) .unquoted false previous none = some words := by
  induction words generalizing previous with
  | nil => exact absurd rfl nonempty
  | cons word rest ih =>
      obtain ⟨first, others⟩ := List.forall_mem_cons.mp plain
      cases rest with
      | nil =>
          obtain ⟨last, _, read⟩ := tokenize_word first [] previous
          rw [List.append_nil] at read
          rw [joined, List.intercalate_singleton, read]
          rfl
      | cons next rest =>
          obtain ⟨last, _, read⟩ := tokenize_word first (' ' :: joined (next :: rest)) previous
          have later := ih (List.cons_ne_nil _ _) others (some ' ')
          rw [joined, List.intercalate_cons_cons, List.append_assoc, List.singleton_append,
            ← joined, read]
          unfold tokenize
          dsimp only
          rw [if_pos (.inr (.inl rfl)), show (decide (' ' = '\\') && !false) = false by decide,
            later]
          rfl

theorem weight_joined {words : List (List Char)} (nonempty : words ≠ []) :
    weight words = (joined words).length + 1 := by
  induction words with
  | nil => exact absurd rfl nonempty
  | cons word rest ih =>
      cases rest with
      | nil => simp [joined, weight]
      | cons next rest =>
          rw [weight_cons, ih (List.cons_ne_nil _ _), joined, List.intercalate_cons_cons]
          simp only [List.length_append, List.length_singleton]
          omega

theorem mem_joined {character : Char} {words : List (List Char)}
    (member : character ∈ joined words) : character = ' ' ∨ ∃ word ∈ words, character ∈ word := by
  induction words with
  | nil => cases member
  | cons word rest ih =>
      cases rest with
      | nil => exact .inr ⟨word, List.mem_cons_self, by simpa [joined] using member⟩
      | cons next rest =>
          rw [joined, List.intercalate_cons_cons, List.append_assoc, List.singleton_append] at member
          rcases List.mem_append.mp member with inWord | later
          · exact .inr ⟨word, List.mem_cons_self, inWord⟩
          · rcases List.mem_cons.mp later with rfl | later
            · exact .inl rfl
            · refine (ih later).imp_right ?_
              rintro ⟨other, inRest, inOther⟩
              exact ⟨other, List.mem_cons_of_mem _ inRest, inOther⟩

/-- The words come back as the arguments exactly if each of them is plain. -/
theorem parseArgv_joined_iff {words : List (List Char)} (nonempty : words ≠ []) :
    parseArgv (joined words) = some words ↔ ∀ word ∈ words, Plain word := by
  constructor
  · intro parsed
    rw [parseArgv] at parsed
    split at parsed
    · cases parsed
    · cases parsed
    · rename_i tokens _ tokenized
      obtain ⟨unquotedBound, exact⟩ := weight_unquote parsed
      have bound := weight_tokenize tokenized
      have total := weight_joined nonempty
      simp only [Quote.pending, Token.size, Option.getD_none, List.length_nil] at bound
      obtain ⟨noQuote, rfl⟩ := exact (by omega)
      have unbroken : ∀ word ∈ words, Unbroken ('\t' ∈ joined words) word := by
        refine unbroken_of_weight tokenized noQuote ?_ id nofun fun _ => .inl rfl
        simp only [Token.size, Option.getD_none, List.length_nil]
        omega
      intro word member
      have here := unbroken word member
      refine ⟨here.nonempty, here.characters, fun head => ?_⟩
      rcases mem_joined (here.noComment head) with isBlank | ⟨other, inWords, inOther⟩
      · exact absurd isBlank (by decide)
      · exact absurd ((unbroken other inWords).characters _ inOther).1 (by decide)
  · intro plain
    have unquoted : words.mapM (unquote · .plain) = some words := by
      have each : ∀ word ∈ words, unquote word .plain = some word := fun word member =>
        unquote_eq_self fun character inWord => ((plain word member).characters _ inWord).2
      clear nonempty plain
      induction words with
      | nil => rfl
      | cons word rest ih =>
          obtain ⟨first, others⟩ := List.forall_mem_cons.mp each
          rw [List.mapM_cons, first, ih others]
          rfl
    rw [parseArgv, tokenize_joined nonempty plain none]
    split
    · rename_i none
      cases none
    · rename_i none
      exact absurd (Option.some.inj none) nonempty
    · rename_i tokens _ same
      cases same
      exact unquoted

end Shell
