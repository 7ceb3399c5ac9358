import QueryDriver.Proofs.Scram.Attributes
import QueryDriver.Scram.Client

/-!
A username in a client-first message stays one attribute, whatever stands in it: escaped it has no
comma, and it can be read back from its escapes.
-/

namespace QueryDriver.Scram

/-- Puts letters in the place of one wherever it stands. -/
def replaceEach (letter : Char) (instead letters : List Char) : List Char :=
  letters.flatMap fun other => if other = letter then instead else [other]

/-- Takes back escapes in one pass from the left. -/
def unescapeChars : List Char → List Char
  | '=' :: '2' :: 'C' :: rest => ',' :: unescapeChars rest
  | '=' :: '3' :: 'D' :: rest => '=' :: unescapeChars rest
  | letter :: rest => letter :: unescapeChars rest
  | [] => []

/-- The equals signs are escaped first, so that those of escapes stay as they are. -/
theorem escapeChars_eq_replaceEach (letters : List Char) :
    escapeChars letters =
      replaceEach ',' ['=', '2', 'C'] (replaceEach '=' ['=', '3', 'D'] letters) := by
  fun_induction escapeChars letters with
  | case1 => rfl
  | case2 rest ih =>
      rw [ih]
      rfl
  | case3 rest ih =>
      rw [ih]
      rfl
  | case4 letter rest equals comma ih =>
      rw [ih]
      simp only [replaceEach, List.flatMap_cons, if_neg equals, if_neg comma,
        List.singleton_append]

theorem comma_not_mem_escapeChars (letters : List Char) : ',' ∉ escapeChars letters := by
  fun_induction escapeChars letters with
  | case1 => exact List.not_mem_nil
  | case2 rest ih => simpa using ih
  | case3 rest ih => simpa using ih
  | case4 letter rest equals comma ih =>
      rw [List.mem_cons, not_or]
      exact ⟨Ne.symm comma, ih⟩

theorem unescapeChars_escapeChars (letters : List Char) :
    unescapeChars (escapeChars letters) = letters := by
  fun_induction escapeChars letters with
  | case1 => rfl
  | case2 rest ih => rw [unescapeChars, ih]
  | case3 rest ih => rw [unescapeChars, ih]
  | case4 letter rest equals comma ih =>
      rw [unescapeChars, ih]
      · exact fun _ same => absurd same equals
      · exact fun _ same => absurd same equals

/-- An equals sign in a text that an escape begins is that of the escape or stands behind it. -/
theorem escape_or_behind {first second : Char} {rest before after : List Char}
    (plain : first ≠ '=' ∧ second ≠ '=')
    (split : '=' :: first :: second :: rest = before ++ '=' :: after) :
    [first, second] <+: after ∨ ∃ earlier, rest = earlier ++ '=' :: after := by
  rcases before with _ | ⟨_, _ | ⟨_, _ | ⟨_, earlier⟩⟩⟩
  · obtain rfl := (List.cons.inj split).2
    exact .inl (List.prefix_append [first, second] rest)
  · simp only [List.cons_append, List.nil_append, List.cons.injEq] at split
    exact absurd split.2.1 plain.1
  · simp only [List.cons_append, List.nil_append, List.cons.injEq] at split
    exact absurd split.2.2.1 plain.2
  · simp only [List.cons_append, List.cons.injEq] at split
    exact .inr ⟨earlier, split.2.2.2⟩

theorem escape_of_equals (letters : List Char) {before after : List Char}
    (split : escapeChars letters = before ++ '=' :: after) :
    ['3', 'D'] <+: after ∨ ['2', 'C'] <+: after := by
  fun_induction escapeChars letters generalizing before with
  | case1 => simp at split
  | case2 rest ih =>
      rcases escape_or_behind (by decide) split with escape | ⟨earlier, behind⟩
      · exact .inl escape
      · exact ih behind
  | case3 rest ih =>
      rcases escape_or_behind (by decide) split with escape | ⟨earlier, behind⟩
      · exact .inr escape
      · exact ih behind
  | case4 letter rest equals comma ih =>
      cases before with
      | nil => exact absurd (List.cons.inj split).1 equals
      | cons _ earlier => exact ih (List.cons.inj split).2

theorem escapeUsername_injective : Function.Injective escapeUsername := by
  intro username other same
  have letters : escapeChars username.toList = escapeChars other.toList := by
    simpa only [escapeUsername, String.toList_ofList] using congrArg String.toList same
  rw [← String.toList_inj, ← unescapeChars_escapeChars username.toList, letters,
    unescapeChars_escapeChars]

namespace Client

theorem toList_firstBare (username nonce : String) :
    (firstBare username nonce).toList =
      ('n' :: '=' :: escapeChars username.toList) ++ ',' :: 'r' :: '=' :: nonce.toList := by
  simp [firstBare, escapeUsername]

theorem comma_not_mem_name (username : String) :
    ',' ∉ 'n' :: '=' :: escapeChars username.toList := by
  simpa using comma_not_mem_escapeChars username.toList

theorem firstBare_inj {username nonce other otherNonce : String} :
    firstBare username nonce = firstBare other otherNonce ↔
      username = other ∧ nonce = otherNonce := by
  constructor
  · intro same
    have letters := congrArg String.toList same
    rw [toList_firstBare, toList_firstBare] at letters
    -- no name has a comma, so that both texts are cut at their first one
    have pieces := congrArg (List.splitOn ',') letters
    rw [List.splitOn_append_cons_self_of_not_mem (comma_not_mem_name username),
      List.splitOn_append_cons_self_of_not_mem (comma_not_mem_name other)] at pieces
    have names : escapeChars username.toList = escapeChars other.toList := by
      simpa using (List.cons.inj pieces).1
    rw [names, List.append_cancel_left_eq] at letters
    refine ⟨escapeUsername_injective ?_, String.toList_inj.mp (by simpa using letters)⟩
    rw [escapeUsername, names, escapeUsername]
  · rintro ⟨rfl, rfl⟩
    rfl

theorem splitOn_firstBare (username : String) {nonce : String} (plain : ',' ∉ nonce.toList) :
    (firstBare username nonce).toList.splitOn ',' =
      ['n' :: '=' :: escapeChars username.toList, 'r' :: '=' :: nonce.toList] := by
  have behind : ',' ∉ 'r' :: '=' :: nonce.toList := by simpa using plain
  rw [toList_firstBare, List.splitOn_append_cons_self_of_not_mem (comma_not_mem_name username),
    List.splitOn_eq_singleton behind]

theorem parse_firstBare {username nonce : String} (named : username ≠ "") (given : nonce ≠ "")
    (plain : ',' ∉ nonce.toList) :
    Attributes.parse (firstBare username nonce) =
      .ok [⟨'n', some (escapeUsername username)⟩, ⟨'r', some nonce⟩] := by
  have some : escapeChars username.toList ≠ [] := by
    intro none
    have back := unescapeChars_escapeChars username.toList
    rw [none] at back
    exact named (String.toList_eq_nil_iff.mp back.symm)
  rw [Attributes.parse_of_splitOn (splitOn_firstBare username plain)]
  · simp [attributeIn, valueIn, escapeUsername]
  · simp only [List.forall_mem_cons, List.not_mem_nil, false_imp_iff, implies_true, and_true]
    exact ⟨.pair 'n' some, .pair 'r' fun none => given (String.toList_eq_nil_iff.mp none)⟩

/-- Whatever the name, it is escaped by two replacements one after the other, has no comma then and
no equals sign that begins no escape, and can be read back. It is one attribute of the client-first
message, which tells the name and the nonce. -/
theorem firstMessage_tells_name (username : String) :
    (escapeUsername username).toList =
      replaceEach ',' "=2C".toList (replaceEach '=' "=3D".toList username.toList) ∧
    ',' ∉ (escapeUsername username).toList ∧
    (∀ before after, (escapeUsername username).toList = before ++ '=' :: after →
      ['3', 'D'] <+: after ∨ ['2', 'C'] <+: after) ∧
    unescapeChars (escapeUsername username).toList = username.toList ∧
    (∀ other, escapeUsername username = escapeUsername other → username = other) ∧
    (∀ password nonce, username ≠ "" → nonce ≠ "" → ',' ∉ nonce.toList →
      ∃ bare, (Client.new username password nonce).firstMessage = "n,," ++ bare ∧
        Attributes.parse bare =
          .ok [⟨'n', some (escapeUsername username)⟩, ⟨'r', some nonce⟩]) ∧
    ∀ password nonce other otherPassword otherNonce,
      (Client.new username password nonce).firstMessage =
        (Client.new other otherPassword otherNonce).firstMessage →
      username = other ∧ nonce = otherNonce := by
  have letters : (escapeUsername username).toList = escapeChars username.toList :=
    String.toList_ofList
  rw [letters]
  refine ⟨escapeChars_eq_replaceEach _, comma_not_mem_escapeChars _,
    fun before after => escape_of_equals _, unescapeChars_escapeChars _,
    fun other same => escapeUsername_injective same, ?_, ?_⟩
  · intro password nonce named given plain
    exact ⟨firstBare username nonce, rfl, parse_firstBare named given plain⟩
  · intro password nonce other otherPassword otherNonce same
    exact firstBare_inj.mp ((String.append_right_inj header).mp same)

/-- A name that looks like a nonce, which stays apart from a nonce that continues the same way. -/
theorem firstMessage_tells_name_apart :
    ',' ∉ (escapeUsername "a,r=b").toList ∧
    (['3', 'D'] <+: "2Cr=3Db".toList ∨ ['2', 'C'] <+: "2Cr=3Db".toList) ∧
    (∃ bare, (Client.new "a,r=b" "pencil" "c").firstMessage = "n,," ++ bare ∧
      Attributes.parse bare = .ok [⟨'n', some "a=2Cr=3Db"⟩, ⟨'r', some "c"⟩]) ∧
    (Client.new "a,r=b" "pencil" "c").firstMessage ≠
      (Client.new "a" "pencil" "b,r=c").firstMessage := by
  obtain ⟨_, plain, escapes, _, _, reads, tells⟩ := firstMessage_tells_name "a,r=b"
  have escaped : escapeUsername "a,r=b" = "a=2Cr=3Db" := by decide +kernel
  rw [escaped] at reads
  refine ⟨plain, escapes ['a'] _ (by decide +kernel), ?_, fun same => ?_⟩
  · exact reads "pencil" "c" (by decide) (by decide) (by decide +kernel)
  · exact absurd (tells "pencil" "c" "a" "pencil" "b,r=c" same).1 (by decide)

end Client

end QueryDriver.Scram
