import QueryDriver.Proofs.Base64
import QueryDriver.Proofs.Handshake.Replies
import QueryDriver.Proofs.Hash
import QueryDriver.Proofs.Scram.Attributes
import QueryDriver.Scram.Server

/-!
Both sides of an exchange come to the same transcript. The server puts it together from the texts of
the messages; what the client proves and expects under it is what the server checks and signs.
-/

namespace QueryDriver.Scram

open Hash

namespace Server

theorem splitProofChars_plain {letters : List Char} (plain : ',' ∉ letters) :
    splitProofChars letters = none := by
  induction letters with
  | nil => rfl
  | cons letter rest ih =>
      rw [List.mem_cons, not_or] at plain
      have unmarked : proofMark.toList.isPrefixOf (letter :: rest) = false := by
        have other : (',' == letter) = false := beq_eq_false_iff_ne.mpr plain.1
        simp [proofMark, List.isPrefixOf, other]
      rw [splitProofChars, ih plain.2]
      simp [unmarked]

theorem splitProofChars_append (before : List Char) {proof : List Char} (plain : ',' ∉ proof) :
    splitProofChars (before ++ proofMark.toList ++ proof) = some (before, proof) := by
  induction before with
  | nil =>
      have behind : ',' ∉ 'p' :: '=' :: proof := by simpa using plain
      change splitProofChars (',' :: 'p' :: '=' :: proof) = some ([], proof)
      rw [splitProofChars, splitProofChars_plain behind]
      rfl
  | cons letter rest ih =>
      rw [List.cons_append, List.cons_append, splitProofChars, ih]

/-- No proof mark begins behind the one that stands before the proof. -/
theorem proofMark_last (bare : String) (proof : Bytes) (other behind : List Char)
    (same : (bare ++ ",p=" ++ Base64.encode proof).toList = other ++ ",p=".toList ++ behind) :
    other.length ≤ bare.toList.length := by
  have comma : (other ++ ",p=".toList ++ behind)[other.length]? = some ',' := by simp
  have split : (bare ++ ",p=" ++ Base64.encode proof).toList =
      bare.toList ++ [','] ++ ('p' :: '=' :: Base64.encodeChars proof) := by
    simp [Base64.encode]
  apply Nat.le_of_not_gt
  intro longer
  -- a later mark would put a comma behind the first letter of the earlier one
  obtain ⟨more, count⟩ : ∃ more, other.length = (bare.toList ++ [',']).length + more :=
    ⟨other.length - (bare.toList.length + 1), by
      rw [List.length_append, List.length_singleton]
      omega⟩
  rw [← same, split, count, List.getElem?_append_right (Nat.le_add_right _ _)] at comma
  have member := List.mem_of_getElem? comma
  simp only [List.mem_cons] at member
  rcases member with letter | letter | inside
  · exact absurd letter (by decide)
  · exact absurd letter (by decide)
  · exact Base64.comma_not_mem_encodeChars proof inside

theorem splitProof_append (bare : String) (proof : Bytes) :
    splitProof? (bare ++ proofMark ++ Base64.encode proof) = some (bare, Base64.encode proof) := by
  have split := splitProofChars_append bare.toList (Base64.comma_not_mem_encodeChars proof)
  simp only [splitProof?, String.toList_append, Base64.encode, String.toList_ofList, split,
    Option.map_some, String.ofList_toList]

end Server

theorem parse_signature {signature : Bytes} (signed : signature ≠ []) :
    Attributes.parse ("v=" ++ Base64.encode signature) =
      .ok [⟨'v', some (Base64.encode signature)⟩] := by
  have plain : ',' ∉ 'v' :: '=' :: Base64.encodeChars signature := by
    simpa using Base64.comma_not_mem_encodeChars signature
  have pieces : ("v=" ++ Base64.encode signature).toList.splitOn ',' =
      ['v' :: '=' :: Base64.encodeChars signature] := by
    rw [← List.splitOn_eq_singleton plain]
    simp [Base64.encode]
  rw [Attributes.parse_of_splitOn pieces
    (List.forall_mem_singleton.mpr (.pair 'v' (Base64.encodeChars_ne_nil signed)))]
  rfl

section

variable {functions : Functions} (sized : functions.Sized) (salted : Bytes) (said : String)

include sized

theorem length_clientProof : (clientProof functions salted said).length = 32 := by
  have same := (sized.keyed salted (Text.bytes "Client Key")).trans
    (sized.keyed (storedKey functions salted) (Text.bytes said)).symm
  exact (length_xor same).trans (sized.keyed _ _)

theorem xor_clientProof :
    xor (clientProof functions salted said) (clientSignature functions salted said) =
      clientKey functions salted :=
  xor_xor ((sized.keyed _ _).trans (sized.keyed _ _).symm)

theorem serverSignature_ne_nil : serverSignature functions salted said ≠ [] := by
  apply List.ne_nil_of_length_pos
  rw [show (serverSignature functions salted said).length = 32 from sized.keyed _ _]
  decide

theorem Server.verifies_clientProof {clientFirst serverFirst bare : String}
    (rebuilt : Server.transcript clientFirst serverFirst bare = said) :
    Server.verifies functions salted clientFirst serverFirst
      (bare ++ ",p=" ++ Base64.encode (clientProof functions salted said)) = true := by
  have split := Server.splitProof_append bare (clientProof functions salted said)
  have decoded : Base64.decode? (Base64.encode (clientProof functions salted said)) =
      some (clientProof functions salted said) := Base64.decode_eq_some_iff.mpr rfl
  rw [Server.proofMark] at split
  simp only [Server.verifies, split, decoded, rebuilt, Server.accepts,
    xor_clientProof sized salted said, storedKey, decide_true]

theorem Client.verifyServerFinal_signature {client : Client}
    (known : client.serverKey = some (Scram.serverKey functions salted))
    (transcript : client.transcript = said) :
    client.verifyServerFinal functions
      ("v=" ++ Base64.encode (serverSignature functions salted said)) = .ok () := by
  refine (Client.verifyServerFinal_eq_ok_iff known).mpr
    ⟨_, parse_signature (serverSignature_ne_nil sized salted said), ?_⟩
  rw [transcript]
  rfl

end

namespace Client

variable {functions : Functions} {username password nonce message : String}

/-- Whatever server-first message the client accepts, a server that has the salted password and
the three messages finds the transcript of the client, the proof that it expects, and a signature
that the client accepts. -/
theorem agrees_with_server (sized : functions.Sized) {accepted : Client}
    (accepts : (Client.new username password nonce).acceptServerFirst message = .ok accepted) :
    ∃ first final clientFinal clientBare bare proof,
      accepted.serverFirst = some first ∧
      accepted.makeFinal functions = .ok (final, clientFinal) ∧
      (Client.new username password nonce).firstMessage = "n,," ++ clientBare ∧
      clientFinal = bare ++ ",p=" ++ proof ∧
      (∀ other behind, clientFinal.toList = other ++ ",p=".toList ++ behind →
        other.length ≤ bare.toList.length) ∧
      final.transcript = clientBare ++ "," ++ message ++ "," ++ bare ∧
      let salted := functions.derive (Text.bytes password) first.salt first.iterations
      let proved := clientProof functions salted final.transcript
      let key := functions.keyed salted (Text.bytes "Client Key")
      proof = Base64.encode proved ∧
      proved.length = 32 ∧
      xor proved (functions.keyed (functions.hash key) (Text.bytes final.transcript)) = key ∧
      Server.verifies functions salted
        (Client.new username password nonce).firstMessage message clientFinal = true ∧
      final.verifyServerFinal functions
        ("v=" ++ Base64.encode (serverSignature functions salted final.transcript)) = .ok () := by
  obtain ⟨first, _, rfl⟩ := acceptServerFirst_eq_ok_iff.mp accepts
  let salted := functions.derive (Text.bytes password) first.salt first.iterations
  let bare := finalBare first.nonce
  let said := firstBare username nonce ++ "," ++ message ++ "," ++ bare
  have rebuilt : Server.transcript (Client.new username password nonce).firstMessage message bare =
      said := by
    have dropped : (header ++ firstBare username nonce).toList.drop header.length =
        (firstBare username nonce).toList := by
      rw [String.toList_append]
      exact List.drop_left
    rw [Server.transcript, firstMessage, Client.new, dropped, String.ofList_toList]
  exact ⟨first, _, _, firstBare username nonce, bare, _, rfl, rfl, rfl, rfl,
    Server.proofMark_last bare (clientProof functions salted said), rfl, rfl,
    length_clientProof sized salted said, xor_clientProof sized salted said,
    Server.verifies_clientProof sized salted said rebuilt,
    verifyServerFinal_signature sized salted said rfl rfl⟩

/-- The real functions, a name with signs that are escaped, and attributes in another order. -/
theorem agrees_with_server_reordered :
    let client := Client.new "a=b,c" "pencil" "abc"
    let message := "i=4096,x,s=AQI=,r=abc=p"
    let accepted := { client with
      transcript := "n=a=3Db=2Cc,r=abc,i=4096,x,s=AQI=,r=abc=p"
      serverFirst := some ⟨"abc=p", [1, 2], 4096⟩ }
    let salted := standard.derive (Text.bytes "pencil") [1, 2] 4096
    standard.Sized ∧ client.acceptServerFirst message = .ok accepted ∧
      ∃ final clientFinal, accepted.makeFinal standard = .ok (final, clientFinal) ∧
        Server.verifies standard salted client.firstMessage message clientFinal = true ∧
        final.verifyServerFinal standard
          ("v=" ++ Base64.encode (serverSignature standard salted final.transcript)) = .ok () := by
  intro client message accepted salted
  have accepts : client.acceptServerFirst message = .ok accepted :=
    ok_of_toOption (by decide +kernel)
  obtain ⟨first, final, clientFinal, _, _, _, given, made, _, _, _, _, _, _, _, verified, signed⟩ :=
    agrees_with_server standard_sized accepts
  obtain rfl := Option.some.inj given
  exact ⟨standard_sized, accepts, final, clientFinal, made, verified, signed⟩

end Client

end QueryDriver.Scram
