import Adocify.Proofs.CanonicalTexts

/-! Bytes without a declared character set. They are read as UTF-8 if they are UTF-8, else in the set that a trusted
detector names, else as Windows-1252, and as Latin-1 where that has no character for a byte. The codecs by name may be
any; what counts is only what they answer for the name that is detected. -/

namespace Adocify

theorem Logged.Gives.unique {α : Type} {computation : Logged α} {log after otherAfter : List LogRecord} {value other : α}
    (given : computation.Gives log value after) (otherGiven : computation.Gives log other otherAfter) : value = other :=
  Except.ok.inj (Prod.mk.inj (given.symm.trans otherGiven)).1

namespace Detection

variable {detection : Option Detection} {name other : Text}

/-- The detector names a character set with a confidence that is not too low. One that is no number is not. -/
def Names (detection : Option Detection) (name : Text) : Prop :=
  ∃ found, detection = some found ∧ found.encoding = some name ∧ name ≠ [] ∧ found.confidence.less trusted = false

theorem named_iff {confidence : Binary64} : named detection = some (name, confidence) ↔
    ∃ found, detection = some found ∧ found.encoding = some name ∧ name ≠ [] ∧ found.confidence = confidence := by
  cases detection with
  | none => simp [named]
  | some found =>
    cases told : found.encoding with
    | none => simp [named, told]
    | some encoding => by_cases visible : encoding = [] <;> grind [named]

theorem accepted_iff : accepted trusted detection = some name ↔ Names detection name := by
  constructor
  · intro accepts
    simp only [accepted] at accepts
    split at accepts
    · cases accepts
    next known confidence told =>
    split at accepts
    · cases accepts
    next confident =>
      obtain rfl := Option.some.inj accepts
      obtain ⟨found, detected, encoding, visible, rfl⟩ := named_iff.mp told
      exact ⟨found, detected, encoding, visible, eq_false_of_ne_true confident⟩
  · rintro ⟨found, detected, encoding, visible, confident⟩
    have told := named_iff.mpr ⟨found, detected, encoding, visible, rfl⟩
    simp only [accepted, told, confident, if_neg Bool.false_ne_true]

end Detection

namespace Charset

variable {bytes : List UInt8} {text : Text} {charOf : UInt8 → Option Char}

theorem decodeSingle_iff (codec reason : String) (position : Nat) :
    decodeSingle charOf codec reason position bytes = .ok text ↔ bytes.map charOf = text.map some := by
  induction bytes generalizing position text with
  | nil => cases text <;> simp [decodeSingle]
  | cons b rest ih =>
    rw [decodeSingle, List.map_cons]
    cases known : charOf b with
    | none => cases text <;> simp
    | some c =>
      rw [Utf8.map_cons_iff]
      cases text with
      | nil => simp
      | cons first others => simp [ih, and_comm]

theorem mapError_ok {α β γ : Type} {problemOf : α → β} {result : Except α γ} {value : γ} :
    result.mapError problemOf = .ok value ↔ result = .ok value := by
  cases result <;> simp [Except.mapError]

theorem decode_windows1252_iff : decode .windows1252 bytes = .ok text ↔ bytes.map windows1252Char? = text.map some :=
  mapError_ok.trans (decodeSingle_iff _ _ _)

theorem mapError_orderly {result : Except DecodeError Text} {failure : Failure} :
    result.mapError CodecFailure.undecodable ≠ .error (.other failure) := by
  cases result <;> exact nofun

theorem decode_orderly {charset : Charset} {failure : Failure} (other : charset ≠ .undefined) :
    charset.decode bytes ≠ .error (.other failure) := by
  intro failed
  cases charset with
  | undefined => exact other rfl
  | hexadecimal =>
    rw [decode] at failed
    split at failed <;> cases failed
  | _ => exact mapError_orderly failed

end Charset

namespace Source

variable {codecs : Codecs} {detection : Option Detection} {bytes : List UInt8} {text : Text}

theorem decodeMarked_iff :
    Utf8.decodeMarked bytes = .ok text ↔ ∃ whole, bytes = Utf8.encode whole ∧ withoutMark whole = text := by
  constructor
  · intro decoded
    by_cases marked : Utf8.mark.isPrefixOf bytes = true
    · obtain ⟨rest, rfl⟩ := List.isPrefixOf_iff_prefix.mp marked
      rw [Utf8.decodeMarked, if_pos marked] at decoded
      have unmarked : rest = Utf8.encode text := Utf8.decode_iff.mp decoded
      exact ⟨byteOrderMark :: text, by rw [encode_marked, unmarked], rfl⟩
    · have whole := decoded
      rw [Utf8.decodeMarked, if_neg marked, Utf8.decode_iff] at whole
      rw [whole, decodeMarked_encode] at decoded
      exact ⟨text, whole, Except.ok.inj decoded⟩
  · rintro ⟨whole, rfl, rfl⟩
    exact decodeMarked_encode whole

def IsUtf8 (bytes : List UInt8) : Prop := ∃ whole, bytes = Utf8.encode whole

/-- The detected codec has a text for the bytes or refuses them; nothing else goes wrong in it. -/
def Orderly (codecs : Codecs) (detection : Option Detection) (bytes : List UInt8) : Prop :=
  ∀ name, Detection.Names detection name → ∀ failure, codecs name bytes ≠ .error (.other failure)

/-- No text comes of what the detector says. -/
def Undetected (codecs : Codecs) (detection : Option Detection) (bytes : List UInt8) : Prop :=
  ∀ name, Detection.Names detection name → ∀ text, codecs name bytes ≠ .ok text

/-- The text of bytes whose character set is not declared. -/
inductive Undeclared (codecs : Codecs) (detection : Option Detection) (bytes : List UInt8) : Text → Prop where
  | utf8 {whole : Text} (encoded : bytes = Utf8.encode whole) : Undeclared codecs detection bytes (withoutMark whole)
  | detected {name text : Text} (foreign : ¬IsUtf8 bytes) (named : Detection.Names detection name)
      (decodes : codecs name bytes = .ok text) : Undeclared codecs detection bytes text
  | windows1252 {text : Text} (foreign : ¬IsUtf8 bytes) (undetected : Undetected codecs detection bytes)
      (defined : ∀ b ∈ bytes, Charset.windows1252Char? b ≠ none)
      (decodes : Charset.decode .windows1252 bytes = .ok text) : Undeclared codecs detection bytes text
  | latin1 {text : Text} (foreign : ¬IsUtf8 bytes) (undetected : Undetected codecs detection bytes)
      (undefined : ∃ b ∈ bytes, Charset.windows1252Char? b = none)
      (decodes : Charset.decode .latin1 bytes = .ok text) : Undeclared codecs detection bytes text

theorem decode_latin1 (bytes : List UInt8) :
    Charset.decode .latin1 bytes = .ok (bytes.map fun b => Char.ofNat b.toNat) := by
  apply Charset.mapError_ok.mpr
  rw [Charset.decodeSingle_iff, List.map_map]
  rfl

theorem decode_defined (defined : ∀ b ∈ bytes, Charset.windows1252Char? b ≠ none) :
    ∃ text, Charset.decode .windows1252 bytes = .ok text := by
  simp only [Charset.decode_windows1252_iff]
  induction bytes with
  | nil => exact ⟨[], rfl⟩
  | cons b rest ih =>
    obtain ⟨here, later⟩ := List.forall_mem_cons.mp defined
    obtain ⟨c, known⟩ := Option.ne_none_iff_exists'.mp here
    obtain ⟨others, same⟩ := ih later
    exact ⟨c :: others, by rw [List.map_cons, List.map_cons, known, same]⟩

theorem decodeFallback_defined (decodes : Charset.decode .windows1252 bytes = .ok text) :
    (decodeFallback bytes).1 = text := by
  have decoded : Charset.decodeSingle Charset.windows1252Char? "charmap" "" 0 bytes = .ok text :=
    (Charset.decodeSingle_iff _ _ _).mpr (Charset.decode_windows1252_iff.mp decodes)
  rw [decodeFallback, decoded]

theorem decodeFallback_undefined (undefined : ∃ b ∈ bytes, Charset.windows1252Char? b = none)
    (decodes : Charset.decode .latin1 bytes = .ok text) : (decodeFallback bytes).1 = text := by
  cases decoded : Charset.decodeSingle Charset.windows1252Char? "charmap" "" 0 bytes with
  | error problem =>
    rw [decodeFallback, decoded]
    exact Except.ok.inj ((decode_latin1 bytes).symm.trans decodes)
  | ok other =>
    obtain ⟨b, member, missing⟩ := undefined
    have character := List.mem_map_of_mem (f := Charset.windows1252Char?) member
    rw [(Charset.decodeSingle_iff _ _ _).mp decoded, missing] at character
    simp at character

def foreignNote : LogRecord := ⟨.debug, "Input is not valid UTF-8, trying detection".toList⟩

def fallbackNote (name : Text) : LogRecord := ⟨.debug, "Decoded input using fallback encoding ".toList ++ name⟩

/-- A set that gives no text is passed over with a record. -/
theorem decodeDetected_passed {name : Text} (ordered : ∀ failure, codecs name bytes ≠ .error (.other failure))
    (undecoded : ∀ text, codecs name bytes ≠ .ok text) (log : List LogRecord) :
    ∃ told, (decodeDetected codecs name bytes).Gives log none (log ++ [told]) := by
  rw [decodeDetected]
  split
  next decodes => exact absurd decodes (undecoded _)
  next failed => exact absurd failed (ordered _)
  next => exact ⟨_, rfl⟩

section

variable (foreign : ¬IsUtf8 bytes)

include foreign

theorem decodeMarked_foreign : ∃ problem, Utf8.decodeMarked bytes = .error problem := by
  cases decoded : Utf8.decodeMarked bytes with
  | error problem => exact ⟨problem, rfl⟩
  | ok text =>
    obtain ⟨whole, encoded, -⟩ := decodeMarked_iff.mp decoded
    exact absurd ⟨whole, encoded⟩ foreign

theorem decodeUndeclared_detected {name : Text} (named : Detection.Names detection name)
    (decodes : codecs name bytes = .ok text) (log : List LogRecord) :
    (decodeUndeclared codecs detection bytes).Gives log text
      (log ++ foreignNote :: Detection.notes Detection.trusted detection) := by
  obtain ⟨problem, refused⟩ := decodeMarked_foreign foreign
  have detects : decodeDetected codecs name bytes = pure (some text) := by rw [decodeDetected, decodes]
  rw [List.append_cons]
  simp only [decodeUndeclared, refused, Detection.accepted_iff.mpr named, detects]
  rfl

theorem decodeUndeclared_undetected (orderly : Orderly codecs detection bytes)
    (undetected : Undetected codecs detection bytes) (log : List LogRecord) :
    ∃ more, (decodeUndeclared codecs detection bytes).Gives log (decodeFallback bytes).1 (log ++ more) := by
  obtain ⟨problem, refused⟩ := decodeMarked_foreign foreign
  let noted := log ++ [foreignNote] ++ Detection.notes Detection.trusted detection
  cases named : Detection.accepted Detection.trusted detection with
  | none =>
    have ran : (decodeUndeclared codecs detection bytes).Gives log (decodeFallback bytes).1
        (noted ++ [fallbackNote (decodeFallback bytes).2]) := by
      simp only [decodeUndeclared, refused, named]
      rfl
    rw [List.append_assoc, List.append_assoc] at ran
    exact ⟨_, ran⟩
  | some name =>
    have names := Detection.accepted_iff.mp named
    obtain ⟨record, passed⟩ := decodeDetected_passed (orderly name names) (undetected name names) noted
    have ran : (decodeUndeclared codecs detection bytes).Gives log (decodeFallback bytes).1
        (noted ++ [record] ++ [fallbackNote (decodeFallback bytes).2]) := by
      simp only [decodeUndeclared, refused, named]
      refine Logged.gives_bind.mpr ⟨(), _, rfl, Logged.gives_bind.mpr ⟨(), noted, rfl, ?_⟩⟩
      exact Logged.gives_bind.mpr ⟨none, _, passed, rfl⟩
    rw [List.append_assoc, List.append_assoc, List.append_assoc] at ran
    exact ⟨_, ran⟩

end

/-- Nothing else than a text or a refusal comes of the detected codec, if it is asked at all. -/
def Readable (codecs : Codecs) (detection : Option Detection) (bytes : List UInt8) : Prop :=
  IsUtf8 bytes ∨ Orderly codecs detection bytes

theorem Undeclared.gives (told : Undeclared codecs detection bytes text) (readable : Readable codecs detection bytes)
    (log : List LogRecord) : ∃ more, (decodeUndeclared codecs detection bytes).Gives log text (log ++ more) := by
  cases told with
  | utf8 encoded =>
    rw [encoded, decodeUndeclared, decodeMarked_encode]
    exact ⟨[], Logged.gives_pure.mpr ⟨rfl, (List.append_nil log).symm⟩⟩
  | detected foreign named decodes => exact ⟨_, decodeUndeclared_detected foreign named decodes log⟩
  | windows1252 foreign undetected _ decodes =>
    have fallback := decodeUndeclared_undetected foreign (readable.resolve_left foreign) undetected log
    rwa [decodeFallback_defined decodes] at fallback
  | latin1 foreign undetected undefined decodes =>
    have fallback := decodeUndeclared_undetected foreign (readable.resolve_left foreign) undetected log
    rwa [decodeFallback_undefined undefined decodes] at fallback

theorem exists_undeclared (codecs : Codecs) (detection : Option Detection) (bytes : List UInt8) :
    ∃ text, Undeclared codecs detection bytes text := by
  by_cases encoded : IsUtf8 bytes
  · obtain ⟨whole, same⟩ := encoded
    exact ⟨_, .utf8 same⟩
  by_cases detected : Undetected codecs detection bytes
  · by_cases defined : ∀ b ∈ bytes, Charset.windows1252Char? b ≠ none
    · obtain ⟨text, decodes⟩ := decode_defined defined
      exact ⟨text, .windows1252 encoded detected defined decodes⟩
    · have undefined : ∃ b ∈ bytes, Charset.windows1252Char? b = none := by simpa using defined
      exact ⟨_, .latin1 encoded detected undefined (decode_latin1 bytes)⟩
  · simp only [Undetected, not_forall, not_not] at detected
    obtain ⟨name, named, text, decodes⟩ := detected
    exact ⟨text, .detected encoded named decodes⟩

/-- The sources that deliver bytes. -/
def byteDeliveries (bytes : List UInt8) : List Source := [.bytes bytes, .byteStream bytes]

theorem readWith_delivered {source : Source} (delivers : source ∈ byteDeliveries bytes) (encoding : Option Text) :
    source.readWith codecs encoding detection =
      (do let decoded ← decode codecs encoding detection bytes; return canonical decoded) := by
  simp only [byteDeliveries, List.mem_cons, List.not_mem_nil, or_false] at delivers
  rcases delivers with rfl | rfl <;> rfl

theorem decodeDeclared_iff {name : Text} : decodeDeclared codecs name bytes = .ok text ↔ codecs name bytes = .ok text := by
  rw [decodeDeclared]
  split
  next decodes => rw [decodes]; simp
  all_goals
    next failed => rw [failed]; simp

/-- Bytes without a declared character set are read whatever the detector says, if no more goes wrong in the codec that
it names than that the bytes are refused: there is one text that they are in the order of the attempts, and its canonical
form is given. A declared character set is the only one that counts, and what it has no text for is not read. -/
theorem undeclared_bytes_read (codecs : Codecs) (detection : Option Detection) (bytes : List UInt8) :
    (Readable codecs detection bytes →
      ∃ text, (∀ other, Undeclared codecs detection bytes other ↔ other = text) ∧
        ∀ source ∈ byteDeliveries bytes, ∀ log, ∃ more,
          (source.readWith codecs none detection).Gives log (canonical text) (log ++ more)) ∧
    ∀ name, ∀ source ∈ byteDeliveries bytes, ∀ log, ∃ outcome,
      (∀ detection, (source.readWith codecs (some name) detection).run.run log = (outcome, log)) ∧
      ∀ result, outcome = .ok result ↔ ∃ text, codecs name bytes = .ok text ∧ canonical text = result := by
  constructor
  · intro readable
    obtain ⟨text, told⟩ := exists_undeclared codecs detection bytes
    refine ⟨text, fun other => ⟨fun otherTold => ?_, fun same => same ▸ told⟩, ?_⟩
    · obtain ⟨_, ran⟩ := told.gives readable []
      obtain ⟨_, otherRan⟩ := otherTold.gives readable []
      exact otherRan.unique ran
    · intro source delivers log
      obtain ⟨more, ran⟩ := told.gives readable log
      rw [readWith_delivered delivers]
      exact ⟨more, Logged.gives_bind.mpr ⟨text, _, ran, Logged.gives_pure.mpr ⟨rfl, rfl⟩⟩⟩
  · intro name source delivers log
    refine ⟨(decodeDeclared codecs name bytes).map canonical, ?_, ?_⟩
    · intro detection
      rw [readWith_delivered delivers, decode]
      cases decodeDeclared codecs name bytes <;> rfl
    · intro result
      simp only [← @decodeDeclared_iff codecs]
      cases decodeDeclared codecs name bytes <;> simp [Except.map]

theorem foreign_of_refused {problem : DecodeError} (refused : Utf8.decode bytes = .error problem) : ¬IsUtf8 bytes := by
  rintro ⟨whole, encoded⟩
  rw [Utf8.decode_iff.mpr encoded] at refused
  cases refused

/-- The codecs that there are go wrong for two kinds of names only. -/
theorem codecs_orderly (plain : ∀ name, Detection.Names detection name →
    '\x00' ∉ name ∧ Charset.ofName? name ≠ some .undefined) : Orderly Charset.codecs detection bytes := by
  intro name named failure failed
  obtain ⟨whole, known⟩ := plain name named
  have whole : ¬name.contains '\x00' = true := by simpa using whole
  rw [Charset.codecs, if_neg whole] at failed
  cases found : Charset.ofName? name with
  | none => simp [found] at failed
  | some charset =>
    rw [found] at failed
    exact Charset.decode_orderly (fun same => known (same ▸ found)) failed

/-- A confidence that just suffices. -/
def latin1Detected : Option Detection := some ⟨some "latin-1".toList, Detection.trusted⟩

theorem undeclared_bytes_read_latin1 : Readable Charset.codecs latin1Detected [0x93, 0x71, 0x94] ∧
    ∃ more, ((Source.bytes [0x93, 0x71, 0x94]).read none latin1Detected).Gives [] "\u0093q\u0094".toList more := by
  have refused : Utf8.decode [0x93, 0x71, 0x94] = .error ⟨"utf-8".toList, "invalid start byte".toList, 0, [0x93]⟩ := by
    decide
  have named : Detection.Names latin1Detected "latin-1".toList := ⟨_, rfl, rfl, by decide, by decide +kernel⟩
  have readable : Readable Charset.codecs latin1Detected [0x93, 0x71, 0x94] := by
    refine .inr (codecs_orderly ?_)
    rintro name ⟨found, same, encoding, -⟩
    obtain rfl := Option.some.inj same
    obtain rfl := Option.some.inj encoding
    decide +kernel
  obtain ⟨text, only, reads⟩ := (undeclared_bytes_read Charset.codecs latin1Detected [0x93, 0x71, 0x94]).1 readable
  obtain ⟨more, ran⟩ := reads _ List.mem_cons_self []
  have decodes : Charset.codecs "latin-1".toList [0x93, 0x71, 0x94] = .ok "\u0093q\u0094".toList := by decide +kernel
  rw [← (only _).mp (.detected (foreign_of_refused refused) named decodes)] at ran
  exact ⟨readable, _, ran⟩

/-- The detected set counts without a confidence that reaches the trusted one, and a codec that refuses all bytes is not
passed over. -/
theorem undeclared_bytes_misread :
    ¬IsUtf8 [0x80] ∧ Charset.decode .windows1252 [0x80] = .ok ['\u20ac'] ∧
    Detection.trusted.less .nan = false ∧ Detection.trusted.same .nan = false ∧
    ((Source.bytes [0x80]).read none (some ⟨some "latin-1".toList, .nan⟩)).Gives [] ['\u0080']
      [foreignNote, ⟨.debug, "chardet detected encoding: latin-1 (confidence: nan)".toList⟩] ∧
    ((Source.bytes [0x80]).read none (some ⟨some "undefined".toList, Detection.trusted⟩)).run.run [] =
      (.error .undefinedConversion,
        [foreignNote, ⟨.debug, "chardet detected encoding: undefined (confidence: 0.70)".toList⟩]) := by
  have refused : Utf8.decode [0x80] = .error ⟨"utf-8".toList, "invalid start byte".toList, 0, [0x80]⟩ := by decide
  exact ⟨foreign_of_refused refused, by decide +kernel, rfl, rfl, rfl, rfl⟩

end Source

end Adocify
