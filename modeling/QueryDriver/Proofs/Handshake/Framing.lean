import QueryDriver.Proofs.Handshake.Frame
import QueryDriver.Proofs.Json.Record
import QueryDriver.Proofs.Json.Writer

/-!
Frames and the messages in them. What is written for a message has one zero byte, its last one, so
frames that follow each other can be told apart; and it is read as that message, never as an error
of the server, since it begins with a brace.
-/

namespace QueryDriver.Handshake

open Json.Record

/-- A kind of message that is written as fields and told by them. -/
class LawfulMessage (α : Type) [Message α] where
  names : List String
  fields : α → Json.Record
  ofFields? : Json.Record → Option α
  toJson_eq (message : α) : Message.toJson message = (fields message).toJson
  read?_eq (input : List UInt8) : Message.read? input = (read? names input).bind ofFields?
  writable (message : α) : Writable names (fields message)
  ofFields?_fields (message : α) : ofFields? (fields message) = some message

section Lawful

variable {α : Type} [Message α] [LawfulMessage α]

theorem encode_eq (message : α) :
    (encode message).data.toList =
      (LawfulMessage.fields message).toJson.bytes.data.toList ++ [terminator] := by
  rw [encode, LawfulMessage.toJson_eq]
  exact Array.toList_push

theorem terminator_not_mem (message : α) :
    terminator ∉ (LawfulMessage.fields message).toJson.bytes.data.toList := by
  intro member
  have bound := Json.uncontrolled_bytes (LawfulMessage.writable message).whole _ member
  exact absurd bound (by decide)

theorem not_error_of_brace (rest : List UInt8) :
    errorMark.toList.isPrefixOf (Text.lossy (0x7B :: rest)).toList = false := by
  obtain ⟨more, same⟩ := Text.lossy_plain (show (0x7B : UInt8) < 0x80 by decide) rest
  rw [same]
  rfl

theorem decode_encode (message : α) :
    (decode (encode message).data.toList : Except ProtocolError α) = .ok message := by
  have plain := terminator_not_mem message
  have read : Message.read? (LawfulMessage.fields message).toJson.bytes.data.toList =
      some message := by
    rw [LawfulMessage.read?_eq, read?_toJson (LawfulMessage.writable message), Option.bind_some,
      LawfulMessage.ofFields?_fields]
  -- with a brace in front the text is not taken for an error of the server
  have begins : ∃ rest, (LawfulMessage.fields message).toJson.bytes.data.toList = 0x7B :: rest :=
    ⟨_, Text.bytes_ofList _⟩
  obtain ⟨rest, brace⟩ := begins
  rw [encode_eq, decode_frame plain, decode, frameBody_plain plain]
  simp only [read]
  rw [brace, not_error_of_brace]
  rfl

end Lawful

theorem optionalText_eq (name : String) (text : Option String) :
    optionalText name text = optionalField name (text.map .string) := by
  cases text <;> rfl

theorem fitting_textOrNull (text : Option String) : Fitting (textOrNull text) := by
  cases text with
  | none => exact fitting_null
  | some text => exact fitting_string text

section Fields

variable {record : Json.Record} {name : String} {text : Option String}

theorem optional?_textOrNull (given : record.field name = some (textOrNull text)) :
    record.optional? text? name = some text := by
  cases text <;> rw [optional?, given] <;> rfl

theorem optional?_text (given : record.field name = text.map .string) :
    record.optional? text? name = some text :=
  optional?_of_field given fun _ _ => ⟨by simp, rfl⟩

end Fields

namespace VersionReply

def fields (reply : VersionReply) : Json.Record :=
  [("success", .bool reply.success), ("min_protocol_version", uint32Json reply.minVersion),
    ("max_protocol_version", uint32Json reply.maxVersion),
    ("server_version", textOrNull reply.serverVersion)] ++
      optionalField "error" (reply.error.map .string)

theorem writable_fields (reply : VersionReply) : Writable fieldNames reply.fields := by
  refine writable_of_ordered ?_ (by decide) ?_
  · rw [fields, List.map_append]
    exact (List.Sublist.refl _).append (keys_optionalField "error" _)
  · refine List.forall_mem_append.mpr ⟨?_, ?_⟩
    · simp [fitting_bool, uint32Json, fitting_uint32, fitting_textOrNull]
    · exact forall_optionalField (Option.forall_mem_map.mpr fun text _ => fitting_string text) _

theorem ofRecord?_fields (reply : VersionReply) : ofRecord? reply.fields = some reply := by
  have success : reply.fields.bool? "success" = some reply.success :=
    bool?_of_field (by simp [fields])
  have least : reply.fields.withDefault? uint32? 0 "min_protocol_version" = some reply.minVersion :=
    withDefault?_of_field (by simp [fields, uint32Json]) (uint32?_toNat _)
  have greatest : reply.fields.withDefault? uint32? 0 "max_protocol_version" =
      some reply.maxVersion :=
    withDefault?_of_field (by simp [fields, uint32Json]) (uint32?_toNat _)
  have version : reply.fields.optional? text? "server_version" = some reply.serverVersion :=
    optional?_textOrNull (by simp [fields])
  have error : reply.fields.optional? text? "error" = some reply.error :=
    optional?_text (by simp [fields])
  rw [ofRecord?, success, least, greatest, version, error]
  rfl

instance : LawfulMessage VersionReply where
  names := fieldNames
  fields := fields
  ofFields? := ofRecord?
  toJson_eq reply := by
    rw [fields, ← optionalText_eq]
    rfl
  read?_eq _ := rfl
  writable := writable_fields
  ofFields?_fields := ofRecord?_fields

end VersionReply

namespace ClientFirst

def fields (message : ClientFirst) : Json.Record :=
  [("protocol_version", uint32Json message.protocolVersion),
    ("authentication", .string message.authentication),
    ("authentication_method", .string message.method)]

theorem writable_fields (message : ClientFirst) : Writable fieldNames message.fields := by
  refine writable_of_ordered (List.Sublist.refl _) (by decide) ?_
  simp [fields, uint32Json, fitting_uint32, fitting_string]

theorem ofRecord?_fields (message : ClientFirst) : ofRecord? message.fields = some message := by
  have version : message.fields.field "protocol_version" =
      some (uint32Json message.protocolVersion) := by simp [fields]
  have authentication : message.fields.string? "authentication" = some message.authentication :=
    string?_of_field (by simp [fields])
  have method : message.fields.string? "authentication_method" = some message.method :=
    string?_of_field (by simp [fields])
  rw [ofRecord?, version, authentication, method, Option.bind_eq_bind, Option.bind_some,
    uint32Json, uint32?_toNat]
  rfl

instance : LawfulMessage ClientFirst where
  names := fieldNames
  fields := fields
  ofFields? := ofRecord?
  toJson_eq _ := rfl
  read?_eq _ := rfl
  writable := writable_fields
  ofFields?_fields := ofRecord?_fields

end ClientFirst

namespace AuthRequest

def fields (message : AuthRequest) : Json.Record :=
  [("authentication", .string message.authentication)]

theorem writable_fields (message : AuthRequest) : Writable fieldNames message.fields := by
  refine writable_of_ordered (List.Sublist.refl _) (by decide) ?_
  simp [fields, fitting_string]

theorem ofRecord?_fields (message : AuthRequest) : ofRecord? message.fields = some message := by
  have authentication : message.fields.string? "authentication" = some message.authentication :=
    string?_of_field (by simp [fields])
  rw [ofRecord?, authentication]
  rfl

instance : LawfulMessage AuthRequest where
  names := fieldNames
  fields := fields
  ofFields? := ofRecord?
  toJson_eq _ := rfl
  read?_eq _ := rfl
  writable := writable_fields
  ofFields?_fields := ofRecord?_fields

end AuthRequest

namespace AuthReply

def fields (reply : AuthReply) : Json.Record :=
  ("success", .bool reply.success) ::
    optionalField "authentication" (reply.authentication.map .string) ++
    optionalField "error" (reply.error.map .string) ++
    optionalField "error_code" (reply.errorCode.map fun code => .int code.toInt)

theorem codeField_eq (code : Option Int64) :
    codeField code = optionalField "error_code" (code.map fun code => .int code.toInt) := by
  cases code <;> rfl

theorem writable_fields (reply : AuthReply) : Writable fieldNames reply.fields := by
  refine writable_of_ordered ?_ (by decide) ?_
  · simp only [fields, List.map_append]
    exact (((keys_optionalField _ _).cons_cons "success").append (keys_optionalField _ _)).append
      (keys_optionalField _ _)
  · simp only [fields, List.forall_mem_append, List.forall_mem_cons]
    refine ⟨⟨⟨fitting_bool _, ?_⟩, ?_⟩, ?_⟩
    · exact forall_optionalField (Option.forall_mem_map.mpr fun text _ => fitting_string text) _
    · exact forall_optionalField (Option.forall_mem_map.mpr fun text _ => fitting_string text) _
    · exact forall_optionalField (Option.forall_mem_map.mpr fun code _ => fitting_int64 code) _

theorem ofRecord?_fields (reply : AuthReply) : ofRecord? reply.fields = some reply := by
  have success : reply.fields.bool? "success" = some reply.success :=
    bool?_of_field (by simp [fields])
  have authentication : reply.fields.optional? text? "authentication" =
      some reply.authentication :=
    optional?_text (by simp [fields])
  have error : reply.fields.optional? text? "error" = some reply.error :=
    optional?_text (by simp [fields])
  have code : reply.fields.optional? int64? "error_code" = some reply.errorCode :=
    optional?_of_field (show reply.fields.field "error_code" =
      reply.errorCode.map fun code => .int code.toInt by simp [fields]) fun code _ =>
      ⟨by simp, int64?_toInt code⟩
  rw [ofRecord?, success, authentication, error, code]
  rfl

instance : LawfulMessage AuthReply where
  names := fieldNames
  fields := fields
  ofFields? := ofRecord?
  toJson_eq reply := by
    rw [fields, ← optionalText_eq, ← optionalText_eq, ← codeField_eq]
    rfl
  read?_eq _ := rfl
  writable := writable_fields
  ofFields?_fields := ofRecord?_fields

end AuthReply

/-- A message of the handshake, of any kind. -/
inductive AnyMessage
  | versionReply (reply : VersionReply)
  | clientFirst (message : ClientFirst)
  | authRequest (message : AuthRequest)
  | authReply (reply : AuthReply)

namespace AnyMessage

def frame : AnyMessage → List UInt8
  | .versionReply reply => (encode reply).data.toList
  | .clientFirst message => (encode message).data.toList
  | .authRequest message => (encode message).data.toList
  | .authReply reply => (encode reply).data.toList

/-- Reads a frame as a message of the same kind. -/
def decodeAlike : AnyMessage → List UInt8 → Except ProtocolError AnyMessage
  | .versionReply _, frame => (decode frame).map versionReply
  | .clientFirst _, frame => (decode frame).map clientFirst
  | .authRequest _, frame => (decode frame).map authRequest
  | .authReply _, frame => (decode frame).map authReply

theorem frame_eq (message : AnyMessage) :
    ∃ body, message.frame = body ++ [terminator] ∧ terminator ∉ body := by
  cases message <;> exact ⟨_, encode_eq _, terminator_not_mem _⟩

theorem decodeAlike_frame (message : AnyMessage) :
    message.decodeAlike message.frame = .ok message := by
  cases message <;> rw [frame, decodeAlike, decode_encode] <;> rfl

end AnyMessage

/-- The parts of an input, each up to a terminator and with it, and what is left behind the last. -/
def cut : List UInt8 → List (List UInt8)
  | [] => []
  | byte :: rest =>
      if byte = terminator then [byte] :: cut rest
      else
        match cut rest with
        | [] => [[byte]]
        | part :: parts => (byte :: part) :: parts

theorem cut_frame {body : List UInt8} (plain : terminator ∉ body) (rest : List UInt8) :
    cut (body ++ [terminator] ++ rest) = (body ++ [terminator]) :: cut rest := by
  induction body with
  | nil => rw [List.nil_append, List.singleton_append, cut, if_pos rfl]
  | cons byte others ih =>
      rw [List.mem_cons, not_or] at plain
      rw [List.cons_append, List.cons_append, cut, if_neg (Ne.symm plain.1), ih plain.2]

theorem cut_frames (messages : List AnyMessage) :
    cut (messages.flatMap AnyMessage.frame) = messages.map AnyMessage.frame := by
  induction messages with
  | nil => rfl
  | cons message others ih =>
      obtain ⟨body, same, plain⟩ := message.frame_eq
      rw [List.flatMap_cons, List.map_cons, same, cut_frame plain, ih]

/-- Messages survive their framing, whatever they hold: the last byte of a frame is its only zero
byte, frames in a row are cut apart, and each is read as its message. -/
theorem messages_survive_framing (messages : List AnyMessage) :
    (∀ message ∈ messages,
      (∃ body, message.frame = body ++ [terminator] ∧ terminator ∉ body) ∧
        message.decodeAlike message.frame = .ok message) ∧
    cut (messages.flatMap AnyMessage.frame) = messages.map AnyMessage.frame :=
  ⟨fun message _ => ⟨message.frame_eq, message.decodeAlike_frame⟩, cut_frames messages⟩

end QueryDriver.Handshake
