import GUPnP.ServiceProxy.Proof.Handlers

/-!
# The numbers of notifications

`server_handler` reads the `SEQ` header with `strtoul` and does not look where the number ends. A
genuine sequence number is queued as it is. What is none is refused if `strtoul` cannot represent it in
32 bits, and otherwise queued with whatever number it begins with (`seq_iff`).
-/

set_option autoImplicit false

namespace GUPnP.ServiceProxy

/-! ## The statement -/

/-- White space and a decimal numeral of the value `n`, which has 32 bits. -/
def Genuine (hdr : Str) (n : Nat) : Prop :=
  ∃ space digits, hdr = space ++ digits ∧ (∀ c ∈ space, CString.isSpace c = true) ∧ digits ≠ [] ∧
    (∀ c ∈ digits, c.isDigit = true) ∧ n = Nat.ofDigitChars 10 digits 0 ∧ n < 2 ^ 32

/-- A NOTIFY with this SID and document, and the `SEQ` header `hdr`, that passes the other checks. -/
structure PassesOthers (req : NotifyRequest) (s : Proxy) (hdr sid : Str) (doc : XmlDoc) : Prop where
  method : req.method = Gena.methodNotify
  nt : req.nt = some Gena.ntEvent
  nts : req.nts = some Gena.ntsPropChange
  seq : req.seq = some hdr
  sid : parseSid req.sid = some sid
  body : req.body = some doc
  root : doc.root = some "propertyset".toList
  subscribed : s.sid ≠ none

/-- The notification is queued with that number. -/
def Queued (req : NotifyRequest) (s t : Proxy) (sid : Str) (doc : XmlDoc) (n : Nat) : Prop :=
  t.pendingNotifies = s.pendingNotifies ++ [⟨sid, UInt32.ofNat n, doc⟩] ∧
    t.log = s.log ++ [.answer req .ok]

/-- The request is answered that a precondition failed, and the queue is as it was. -/
def Refused (req : NotifyRequest) (s t : Proxy) : Prop :=
  t.pendingNotifies = s.pendingNotifies ∧
    ∃ status, t.log = s.log ++ [.answer req status] ∧ status.code = 412

/-- A genuine sequence number is queued, and anything else is refused. -/
def SeqChecked (req : NotifyRequest) (s : Proxy) (hdr sid : Str) (doc : XmlDoc) : Prop :=
  (∀ n, Genuine hdr n → Queued req s (serverHandler req s) sid doc n) ∧
    ((¬ ∃ n, Genuine hdr n) → Refused req s (serverHandler req s))

/-- The number that the header begins with has more than 32 bits in `unsigned long`, where a minus sign
negates it, or more than 64 bits. -/
def OutOfRange (hdr : Str) : Prop :=
  let (neg, n) := CString.numeral hdr
  if neg then 0 < n ∧ n ≤ 2 ^ 64 - 2 ^ 32 ∨ 2 ^ 64 ≤ n else 2 ^ 32 ≤ n

variable {req : NotifyRequest} {s : Proxy} {hdr sid : Str} {doc : XmlDoc} {n : Nat}

/-! ## The header -/

theorem numeral_of_genuine (h : Genuine hdr n) : CString.numeral hdr = (false, n) ∧ n < 2 ^ 32 := by
  obtain ⟨space, digits, rfl, hspace, hne, hdigits, rfl, hlt⟩ := h
  rw [CString.numeral_space hspace, CString.numeral_of_digits hne hdigits]
  exact ⟨rfl, hlt⟩

/-- A genuine header is not empty, and has digits and white space only. -/
theorem Genuine.chars (h : Genuine hdr n) :
    hdr ≠ [] ∧ ∀ c ∈ hdr, CString.isSpace c = true ∨ c.isDigit = true := by
  obtain ⟨space, digits, rfl, hspace, hne, hdigits, -, -⟩ := h
  refine ⟨List.append_ne_nil_of_right_ne_nil space hne, fun c hc => ?_⟩
  rcases List.mem_append.1 hc with hc | hc
  · exact .inl (hspace c hc)
  · exact .inr (hdigits c hc)

theorem parseSeq_of_genuine (h : Genuine hdr n) : parseSeq hdr = some (UInt32.ofNat n) := by
  obtain ⟨hnumeral, hlt⟩ := numeral_of_genuine h
  have hsize : ¬ UInt32.size ≤ n := Nat.not_le_of_lt hlt
  have hread : CString.strtoul hdr = (n, false) := by
    simp only [CString.strtoul, hnumeral, Bool.false_eq_true, ↓reduceIte,
      if_pos (show n < 2 ^ 64 by omega)]
  simp only [parseSeq, hread, hsize, decide_false, Bool.or_self, Bool.false_eq_true, ↓reduceIte]

theorem parseSeq_eq_none_iff (hdr : Str) : parseSeq hdr = none ↔ OutOfRange hdr := by
  have hsize : UInt32.size = 2 ^ 32 := rfl
  unfold parseSeq OutOfRange CString.strtoul
  obtain ⟨neg, n⟩ := CString.numeral hdr
  rw [hsize]
  by_cases hlt : n < 2 ^ 64
  · -- `strtoul` represents the number, or what the minus sign makes of it
    cases neg with
    | false =>
      simp only [if_pos hlt, Bool.false_eq_true, ↓reduceIte, Bool.false_or, decide_eq_true_eq,
        ite_eq_left_iff, reduceCtorEq, imp_false, not_not]
    | true =>
      have hwrap : 2 ^ 32 ≤ (2 ^ 64 - n) % 2 ^ 64 ↔ 0 < n ∧ n ≤ 2 ^ 64 - 2 ^ 32 ∨ 2 ^ 64 ≤ n := by
        omega
      simp only [if_pos hlt, ↓reduceIte, Bool.false_or, decide_eq_true_eq, ite_eq_left_iff,
        reduceCtorEq, imp_false, not_not, hwrap]
  · have hge : 2 ^ 64 ≤ n := Nat.le_of_not_lt hlt
    cases neg with
    | false =>
      have hbig : 2 ^ 32 ≤ n := by omega
      simp only [if_neg hlt, Bool.true_or, ↓reduceIte, Bool.false_eq_true, hbig]
    | true => simp only [if_neg hlt, Bool.true_or, ↓reduceIte, hge, or_true]

/-! ## The handler -/

theorem serverHandler_invalid (h : PassesOthers req s hdr sid doc) (hseq : parseSeq hdr = none) :
    serverHandler req s =
      s.record (.answer req (.preconditionFailed (some "SEQ invalid"))) := by
  have hcheck : checkNotify req = .error (.preconditionFailed (some "SEQ invalid")) := by
    simp only [checkNotify, h.method, h.nt, h.nts, h.seq, hseq, ne_eq, not_true_eq_false, or_self,
      ↓reduceIte]
  simp only [serverHandler, hcheck]

theorem serverHandler_valid {seq : UInt32} (h : PassesOthers req s hdr sid doc)
    (hseq : parseSeq hdr = some seq) :
    serverHandler req s =
      { s with pendingNotifies := s.pendingNotifies ++ [EmitNotifyData.mk sid seq doc],
               notifyIdleSrc := true }.record (.answer req .ok) := by
  have hcheck : checkNotify req = .ok ⟨sid, seq, doc⟩ := by
    simp only [checkNotify, h.method, h.nt, h.nts, h.seq, hseq, h.sid, h.body, ne_eq,
      not_true_eq_false, or_self, ↓reduceIte]
  have hqueue : ¬ (doc.root ≠ some "propertyset".toList ∨ s.sid = none) :=
    not_or.2 ⟨not_not.2 h.root, h.subscribed⟩
  simp only [serverHandler, hcheck, if_neg hqueue]

/-- A request is refused for its number exactly if `strtoul` or the width of the number rejects it. -/
theorem refused_iff (h : PassesOthers req s hdr sid doc) :
    Refused req s (serverHandler req s) ↔ OutOfRange hdr := by
  rw [← parseSeq_eq_none_iff]
  cases hseq : parseSeq hdr with
  | none =>
    rw [serverHandler_invalid h hseq]
    exact iff_of_true ⟨rfl, _, rfl, rfl⟩ rfl
  | some seq =>
    rw [serverHandler_valid h hseq]
    refine iff_of_false (fun hr => ?_) (Option.some_ne_none seq)
    have hlen := congrArg List.length hr.1
    simp at hlen

theorem queued_of_parseSeq (h : PassesOthers req s hdr sid doc)
    (hseq : parseSeq hdr = some (UInt32.ofNat n)) :
    Queued req s (serverHandler req s) sid doc n := by
  rw [serverHandler_valid h hseq]
  exact ⟨rfl, rfl⟩

/-! ## The headers that are checked -/

/-- The number is checked exactly if it is genuine, or if the number that the header begins with has too
many bits. -/
theorem seq_iff (h : PassesOthers req s hdr sid doc) :
    SeqChecked req s hdr sid doc ↔ (∃ n, Genuine hdr n) ∨ OutOfRange hdr := by
  constructor
  · rintro ⟨-, hrefused⟩
    by_cases hn : ∃ n, Genuine hdr n
    · exact .inl hn
    · exact .inr ((refused_iff h).1 (hrefused hn))
  · intro hcase
    refine ⟨fun n hn => queued_of_parseSeq h (parseSeq_of_genuine hn), fun hn => ?_⟩
    exact (refused_iff h).2 (hcase.resolve_left hn)

/-- The first notification of a subscription. -/
theorem seq_iff_first :
    SeqChecked (sampleNotify sampleSid 0) sampleFresh "0".toList sampleSid
      ⟨some "propertyset".toList, [("Status".toList, "1".toList)]⟩ := by
  have hgenuine : Genuine "0".toList 0 :=
    ⟨[], "0".toList, rfl, List.forall_mem_nil _, by decide, by simp, by decide, by decide⟩
  refine (seq_iff ?_).2 (.inl ⟨0, hgenuine⟩)
  constructor <;> decide

/-- A notification with this header passes the other checks and is queued as this number, although it
should not be. -/
def PassesAs (hdr : Str) (n : Nat) : Prop :=
  let req := NotifyRequest.propertySet sampleSid hdr []
  let doc := XmlDoc.mk (some "propertyset".toList) []
  PassesOthers req sampleFresh hdr sampleSid doc ∧
    Queued req sampleFresh (serverHandler req sampleFresh) sampleSid doc n ∧
    ¬ SeqChecked req sampleFresh hdr sampleSid doc

theorem passesAs (hread : parseSeq hdr = some (UInt32.ofNat n))
    (hother : ¬ (hdr ≠ [] ∧ ∀ c ∈ hdr, CString.isSpace c = true ∨ c.isDigit = true)) :
    PassesAs hdr n := by
  unfold PassesAs
  intro req doc
  have hpasses : PassesOthers req sampleFresh hdr sampleSid doc := by
    constructor <;> first | rfl | decide
  refine ⟨hpasses, queued_of_parseSeq hpasses hread, fun hchecked => ?_⟩
  have hrefused := hchecked.2 fun ⟨_, hn⟩ => hother hn.chars
  rw [refused_iff hpasses, ← parseSeq_eq_none_iff, hread] at hrefused
  exact Option.some_ne_none _ hrefused

/-- A header that is empty, one that is no number, and one with garbage behind the number. -/
theorem not_genuine_queued :
    PassesAs "".toList 0 ∧ PassesAs "abc".toList 0 ∧ PassesAs "12abc".toList 12 :=
  ⟨passesAs (by decide) (by simp), passesAs (by decide) (by simp [CString.isSpace]),
    passesAs (by decide) (by simp [CString.isSpace])⟩

end GUPnP.ServiceProxy
