import ChatBot.Message
import ChatBot.Proofs.Text.Trimming

/-!
# What an envelope makes of a text

A message is meant for the bot when it stands in a direct channel or starts with the bot's mention;
blanks before the mention make no difference.  Its body is what is left without the mention, the
blanks at the ends and the colons after the mention.  The mention ends with a bracket, so a mention
of somebody else is no mention of the bot, even where the one identity continues the other.
-/

namespace ChatBot

/-! ## The mention -/

namespace Identity

theorem toList_mention (me : Identity) :
    me.mention.toList = '<' :: '@' :: me.id.toList ++ ['>'] := by
  simp [mention, String.toList_append]

/-- A mention starts and ends with a bracket, so it is not trimmed. -/
theorem strip_mention_append (me : Identity) (rest : List Char) :
    Text.strip (me.mention.toList ++ rest) = me.mention.toList ++ Text.dropBlanksRight rest := by
  have opening : ∀ c, (me.mention.toList ++ rest).head? = some c → Text.isBlank c = false := by
    rintro c first
    obtain rfl : '<' = c := by simpa [toList_mention] using first
    decide
  have closing : ∀ c, me.mention.toList.getLast? = some c → Text.isBlank c = false := by
    rintro c last
    rw [toList_mention, List.getLast?_concat] at last
    obtain rfl := Option.some.inj last
    decide
  rw [Text.strip, Text.dropBlanks_eq_self opening, Text.dropBlanksRight_append closing]

/-- Identities without a closing bracket can be read off a text that starts with their mention. -/
theorem id_eq_of_mention_prefix {me : Identity} (closed : '>' ∉ me.id.toList) {text : List Char}
    (mentioned : me.mention.toList <+: text) :
    (text.drop 2).takeWhile (· ≠ '>') = me.id.toList := by
  obtain ⟨rest, rfl⟩ := mentioned
  have named : ∀ c ∈ me.id.toList, decide (c ≠ '>') = true := by
    intro c member
    rw [decide_eq_true_eq]
    rintro rfl
    exact closed member
  simp only [toList_mention, List.cons_append, List.append_assoc, List.drop_succ_cons,
    List.drop_zero]
  rw [List.takeWhile_append_of_pos named]
  simp

end Identity

namespace Envelope

variable {message : Message} {me : Identity}

theorem addressed_iff : (of message me).addressed = true ↔
    ['D'] <+: message.channel.toList ∨
      me.mention.toList <+: (Text.trim message.text).toList := by
  have direct : isDirectChannel message.channel = true ↔ ['D'] <+: message.channel.toList := by
    cases named : message.channel.toList with
    | nil => simp [isDirectChannel, named]
    | cons c rest => simp [isDirectChannel, named, List.cons_prefix_cons, eq_comm]
  have mentioned : (me.mention.toList.isPrefixOf? (Text.strip message.text.toList)).isSome = true ↔
      me.mention.toList <+: Text.strip message.text.toList := by
    rw [Option.isSome_iff_exists]
    exact exists_congr fun rest => List.isPrefixOf?_eq_some_iff_append_eq
  rw [of, Bool.or_eq_true, mentioned, direct, or_comm, Text.trim, String.toList_ofList]

theorem body_of_not_mentioned
    (unmentioned : ¬ me.mention.toList <+: (Text.trim message.text).toList) :
    (of message me).body = Text.trim message.text := by
  have none : me.mention.toList.isPrefixOf? (Text.strip message.text.toList) = none := by
    refine Option.eq_none_iff_forall_ne_some.mpr fun rest found => unmentioned ⟨rest, ?_⟩
    rw [Text.trim, String.toList_ofList]
    exact List.isPrefixOf?_eq_some_iff_append_eq.mp found
  rw [of, none]
  rfl

theorem trimmed_body (message : Message) (me : Identity) :
    Text.Trimmed (of message me).body.toList := by
  rw [of, String.toList_ofList]
  cases me.mention.toList.isPrefixOf? (Text.strip message.text.toList) with
  | none => exact Text.trimmed_strip _
  | some rest => exact Text.trimmed_strip _

theorem strip_body (message : Message) (me : Identity) :
    Text.strip (of message me).body.toList = (of message me).body.toList :=
  Text.strip_eq_self (trimmed_body message me)

/-- Blanks around a text make no difference to what an envelope makes of it. -/
theorem of_padded (message : Message) (me : Identity) {before after : String}
    (blank : Text.isAllBlank before = true) (blank' : Text.isAllBlank after = true) :
    of { message with text := before ++ message.text ++ after } me =
      { of message me with text := before ++ message.text ++ after } := by
  have same : Text.strip (before ++ message.text ++ after).toList =
      Text.strip message.text.toList := by
    rw [String.toList_append, String.toList_append,
      Text.strip_append_blanks (Text.isBlank_of_isAllBlank blank'),
      Text.strip_blanks_append (Text.isBlank_of_isAllBlank blank)]
  simp only [of, same]

theorem dropColons_eq_self {text : List Char} (uncolon : text.head? ≠ some ':') :
    text.dropWhile (· = ':') = text := by
  cases text with
  | nil => rfl
  | cons c rest => exact List.dropWhile_cons_of_neg (by simpa using uncolon)

/-- A colon is no blank. -/
theorem head?_blanks_append_ne_colon {blanks rest : List Char}
    (blank : ∀ c ∈ blanks, Text.isBlank c = true) (uncolon : rest.head? ≠ some ':') :
    (blanks ++ rest).head? ≠ some ':' := by
  cases blanks with
  | nil => exact uncolon
  | cons c others =>
      intro colon
      obtain rfl := Option.some.inj colon
      exact absurd (blank ':' (List.mem_cons_self ..)) (by decide)

/-- Blanks at the end have no part in what is left after the mention. -/
theorem afterMention_append_blanks {blanks : List Char}
    (blank : ∀ c ∈ blanks, Text.isBlank c = true) (rest : List Char) :
    afterMention (rest ++ blanks) = afterMention rest := by
  obtain ⟨others, blank', dropped⟩ := Text.exists_dropBlanks_append_blanks blank rest
  have uncolon : others.head? ≠ some ':' := by
    simpa using head?_blanks_append_ne_colon blank' (by simp : ([] : List Char).head? ≠ some ':')
  have kept : (Text.dropBlanks rest ++ others).dropWhile (· = ':') =
      (Text.dropBlanks rest).dropWhile (· = ':') ++ others := by
    rw [List.dropWhile_append, dropColons_eq_self uncolon]
    split
    · next empty => rw [List.isEmpty_iff.mp empty, List.nil_append]
    · rfl
  rw [afterMention, dropped, kept, Text.strip_append_blanks blank', afterMention]

/-- What is left after the mention, colons and blanks is the text that follows them. -/
theorem afterMention_eq {body : List Char} (trimmed : Text.Trimmed body)
    (uncolon : body.head? ≠ some ':') {blanks blanks' : List Char}
    (blank : ∀ c ∈ blanks, Text.isBlank c = true) (blank' : ∀ c ∈ blanks', Text.isBlank c = true)
    (colons : Nat) :
    afterMention (blanks ++ (List.replicate colons ':' ++ (blanks' ++ body))) = body := by
  rw [afterMention, Text.dropBlanks_blanks_append blank]
  cases colons with
  | zero =>
      rw [List.replicate_zero, List.nil_append, Text.dropBlanks_blanks_append blank',
        Text.dropBlanks_eq_self trimmed.front, dropColons_eq_self uncolon,
        Text.strip_eq_self trimmed]
  | succ count =>
      have first : ∀ c, (List.replicate (count + 1) ':' ++ (blanks' ++ body)).head? = some c →
          Text.isBlank c = false := by
        rintro c first
        obtain rfl : ':' = c := by simpa [List.replicate_succ] using first
        decide
      have all : ∀ c ∈ List.replicate (count + 1) ':', decide (c = ':') = true := by
        simp
      rw [Text.dropBlanks_eq_self first, List.dropWhile_append_of_pos all,
        dropColons_eq_self (head?_blanks_append_ne_colon blank' uncolon),
        Text.strip_blanks_append blank', Text.strip_eq_self trimmed]

/-- A text that starts with the mention, after blanks, is meant for the bot. -/
theorem of_mentioned {blanks rest : List Char} (blank : ∀ c ∈ blanks, Text.isBlank c = true)
    (text_eq : message.text.toList = blanks ++ (me.mention.toList ++ rest)) :
    (of message me).addressed = true ∧
      (of message me).body = String.ofList (afterMention rest) := by
  have stripped : Text.strip message.text.toList =
      me.mention.toList ++ Text.dropBlanksRight rest := by
    rw [text_eq, Text.strip_blanks_append blank, me.strip_mention_append]
  have found : me.mention.toList.isPrefixOf? (Text.strip message.text.toList) =
      some (Text.dropBlanksRight rest) :=
    List.isPrefixOf?_eq_some_iff_append_eq.mpr stripped.symm
  obtain ⟨others, blank', rest_eq⟩ := Text.exists_eq_dropBlanksRight_append rest
  have same : afterMention rest = afterMention (Text.dropBlanksRight rest) := by
    conv_lhs => rw [rest_eq]
    exact afterMention_append_blanks blank' _
  simp only [of, found, same]
  exact ⟨rfl, rfl⟩

/-- The mention of somebody else, at the start of a text, leaves no room for that of the bot. -/
theorem not_mentioned_of_other {other : Identity} (closed : '>' ∉ me.id.toList)
    (closed' : '>' ∉ other.id.toList) (ne : other.id ≠ me.id) {text : List Char}
    (mentioned : other.mention.toList <+: text) : ¬ me.mention.toList <+: text := by
  intro both
  apply ne
  rw [← String.toList_inj, ← Identity.id_eq_of_mention_prefix closed' mentioned,
    Identity.id_eq_of_mention_prefix closed both]

/-- What becomes of the text of a message, whatever it is and whoever the bot is.

The message is meant for the bot just where its channel starts with a `D` or its text, once
trimmed, starts with the bot's mention.  The body has no blanks at its ends.  Blanks around the
text change neither.  Without the mention in front, the body is the trimmed text; with it, any
blanks, colons and blanks may stand between it and the body.  A mention of somebody else in front
is not enough in a channel that is not direct, as long as neither identity holds the bracket that
ends a mention. -/
theorem normalises (message : Message) (me : Identity) :
    let envelope := of message me
    let trimmed := (Text.trim message.text).toList
    (envelope.addressed = true ↔
      ['D'] <+: message.channel.toList ∨ me.mention.toList <+: trimmed) ∧
    Text.Trimmed envelope.body.toList ∧
    (∀ before after, Text.isAllBlank before = true → Text.isAllBlank after = true →
      let padded := of { message with text := before ++ message.text ++ after } me
      padded.addressed = envelope.addressed ∧ padded.body = envelope.body) ∧
    (¬ me.mention.toList <+: trimmed → envelope.body = Text.trim message.text) ∧
    (∀ (body w₀ w₁ w₂ w₃ : String) (colons : Nat), Text.Trimmed body.toList →
      ¬ [':'] <+: body.toList → Text.isAllBlank w₀ = true → Text.isAllBlank w₁ = true →
      Text.isAllBlank w₂ = true → Text.isAllBlank w₃ = true →
      message.text = w₀ ++ me.mention ++ w₁ ++ String.ofList (List.replicate colons ':') ++ w₂ ++
        body ++ w₃ →
      envelope.addressed = true ∧ envelope.body = body) ∧
    ∀ other : Identity, '>' ∉ me.id.toList → '>' ∉ other.id.toList → other.id ≠ me.id →
      ¬ ['D'] <+: message.channel.toList → other.mention.toList <+: trimmed →
      envelope.addressed = false := by
  intro envelope trimmed
  refine ⟨addressed_iff, trimmed_body message me, fun before after blank blank' => ?_,
    body_of_not_mentioned, ?_, fun other closed closed' ne channel mentioned => ?_⟩
  · rw [of_padded message me blank blank']
    exact ⟨rfl, rfl⟩
  · intro body w₀ w₁ w₂ w₃ colons trimmed uncolon blank₀ blank₁ blank₂ blank₃ text_eq
    have split : message.text.toList = w₀.toList ++ (me.mention.toList ++
        (w₁.toList ++ (List.replicate colons ':' ++ (w₂.toList ++ body.toList)) ++
          w₃.toList)) := by
      simp [text_eq, String.toList_append]
    have uncolon' : body.toList.head? ≠ some ':' := by
      rintro first
      obtain ⟨rest, body_eq⟩ := List.head?_eq_some_iff.mp first
      exact uncolon ⟨rest, body_eq.symm⟩
    obtain ⟨meant, left⟩ := of_mentioned (Text.isBlank_of_isAllBlank blank₀) split
    rw [afterMention_append_blanks (Text.isBlank_of_isAllBlank blank₃),
      afterMention_eq trimmed uncolon' (Text.isBlank_of_isAllBlank blank₁)
        (Text.isBlank_of_isAllBlank blank₂), String.ofList_toList] at left
    exact ⟨meant, left⟩
  · refine Bool.eq_false_iff.mpr fun meant => ?_
    rcases addressed_iff.mp meant with direct | both
    · exact channel direct
    · exact not_mentioned_of_other closed closed' ne mentioned both

/-- A text with a no-break space before the mention, a line break and colons after it, and an
ideographic space at the end; and one that mentions somebody whose name goes on where the bot's
ends. -/
theorem normalises_greeting :
    let me : Identity := ⟨"bot", "Bot"⟩
    let said := fun text => of ⟨"general", "ann", text, ⟨"1.0"⟩⟩ me
    (said "\u00a0<@bot>\n:: make: it so\u3000").addressed = true ∧
      (said "\u00a0<@bot>\n:: make: it so\u3000").body = "make: it so" ∧
      (said " <@bottle> hi").addressed = false := by
  intro me said
  obtain ⟨-, -, -, -, mentioned, -⟩ :=
    normalises ⟨"general", "ann", "\u00a0<@bot>\n:: make: it so\u3000", ⟨"1.0"⟩⟩ me
  obtain ⟨-, -, -, -, -, other⟩ := normalises ⟨"general", "ann", " <@bottle> hi", ⟨"1.0"⟩⟩ me
  obtain ⟨meant, body_eq⟩ := mentioned "make: it so" "\u00a0" "\n" " " "\u3000" 2
    (by decide) (by decide) (by decide) (by decide) (by decide) (by decide) (by decide)
  exact ⟨meant, body_eq,
    other ⟨"bottle", "B"⟩ (by decide) (by decide) (by decide) (by decide) (by decide)⟩

end Envelope

end ChatBot
