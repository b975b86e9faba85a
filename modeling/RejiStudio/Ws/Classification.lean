import RejiStudio.Ws.Server

/-!
# Classification of client messages

What a message is follows from its `op`, and the code looks at the low byte of it.  The
fields of a message come from its `d` object.
-/

namespace RejiStudio.Ws

namespace Value

def payload (v : Value) (key : String) : Option Value := (v.get "d").bind (·.get key)

def HasText (v : Value) (key text : String) : Prop :=
  (∀ given, v.payload key = some (.string given) → text = given) ∧
    ((∀ given, v.payload key ≠ some (.string given)) → text = "")

end Value

/-- The classification that the two formats promise. -/
structure ClassifiedExactly (v : Value) : Prop where
  identify : (∃ rpc authentication, classifyValue v = .identify rpc authentication) ↔
    v.get "op" = some (.posInt 1)
  request : (∃ requestType requestId requestData,
      classifyValue v = .request requestType requestId requestData) ↔
    v.get "op" = some (.posInt 6)
  obs : classifyValue v = .obs ↔ ∃ op, v.get "op" = some (.posInt op) ∧ op ≠ 1 ∧ op ≠ 6
  legacy : classifyValue v = .legacy ↔ ∀ op, v.get "op" ≠ some (.posInt op)
  identifyFields : ∀ rpc authentication, classifyValue v = .identify rpc authentication →
    (∀ version, rpc = some version ↔ v.payload "rpcVersion" = some (.posInt version)) ∧
      ∀ text, authentication = some text ↔ v.payload "authentication" = some (.string text)
  requestFields : ∀ requestType requestId requestData,
    classifyValue v = .request requestType requestId requestData →
      v.HasText "requestType" requestType ∧ v.HasText "requestId" requestId ∧
        (∀ data, v.payload "requestData" = some data → requestData = data) ∧
        (v.payload "requestData" = none → requestData = .null)

namespace Value

theorem asU64_eq_some_iff {v : Value} {number : UInt64} :
    v.asU64 = some number ↔ v = .posInt number := by
  cases v <;> simp [asU64]

theorem asStr_eq_some_iff {v : Value} {text : String} :
    v.asStr = some text ↔ v = .string text := by
  cases v <;> simp [asStr]

theorem bind_asU64_eq_some_iff {field : Option Value} {number : UInt64} :
    field.bind asU64 = some number ↔ field = some (.posInt number) := by
  cases field <;> simp [asU64_eq_some_iff]

theorem bind_asStr_eq_some_iff {field : Option Value} {text : String} :
    field.bind asStr = some text ↔ field = some (.string text) := by
  cases field <;> simp [asStr_eq_some_iff]

theorem hasText_getD (v : Value) (key : String) :
    v.HasText key (((v.payload key).bind asStr).getD "") := by
  constructor
  · intro given present
    rw [bind_asStr_eq_some_iff.mpr present]
    rfl
  · intro absent
    have missing : (v.payload key).bind asStr = none := by
      rw [Option.eq_none_iff_forall_ne_some]
      intro given found
      exact absent given (bind_asStr_eq_some_iff.mp found)
    rw [missing]
    rfl

end Value

theorem classifyValue_of_op {v : Value} {op : UInt64} (given : v.get "op" = some (.posInt op)) :
    classifyValue v =
      if op.toUInt8 = 1 then
        .identify ((v.payload "rpcVersion").bind Value.asU64)
          ((v.payload "authentication").bind Value.asStr)
      else if op.toUInt8 = 6 then
        .request (((v.payload "requestType").bind Value.asStr).getD "")
          (((v.payload "requestId").bind Value.asStr).getD "")
          ((v.payload "requestData").getD .null)
      else .obs := by
  unfold classifyValue
  rw [Value.bind_asU64_eq_some_iff.mpr given]
  rfl

theorem classifyValue_of_no_op {v : Value} (missing : ∀ op, v.get "op" ≠ some (.posInt op)) :
    classifyValue v = .legacy := by
  have none : (v.get "op").bind Value.asU64 = none := by
    rw [Option.eq_none_iff_forall_ne_some]
    intro op found
    exact missing op (Value.bind_asU64_eq_some_iff.mp found)
  unfold classifyValue
  rw [none]

/-- The low byte of an opcode is one of the two exactly for an opcode that fits. -/
def OpcodeFits (op : UInt64) : Prop :=
  op.toNat < 256 ∨ op.toNat % 256 ≠ 1 ∧ op.toNat % 256 ≠ 6

instance (op : UInt64) : Decidable (OpcodeFits op) :=
  inferInstanceAs (Decidable (_ ∨ _))

theorem opcodeFits_iff (op : UInt64) :
    OpcodeFits op ↔ (op.toUInt8 = 1 ↔ op = 1) ∧ (op.toUInt8 = 6 ↔ op = 6) := by
  have low : op.toUInt8.toNat = op.toNat % 256 := UInt64.toNat_toUInt8 op
  simp only [OpcodeFits, ← UInt8.toNat_inj, ← UInt64.toNat_inj, low]
  change _ ↔ (op.toNat % 256 = 1 ↔ op.toNat = 1) ∧ (op.toNat % 256 = 6 ↔ op.toNat = 6)
  omega

/-- The fields of a message that became one of the two kinds. -/
theorem classified_fields (v : Value) :
    (∀ rpc authentication, classifyValue v = .identify rpc authentication →
      rpc = (v.payload "rpcVersion").bind Value.asU64 ∧
        authentication = (v.payload "authentication").bind Value.asStr) ∧
      ∀ requestType requestId requestData,
        classifyValue v = .request requestType requestId requestData →
          requestType = ((v.payload "requestType").bind Value.asStr).getD "" ∧
            requestId = ((v.payload "requestId").bind Value.asStr).getD "" ∧
            requestData = (v.payload "requestData").getD .null := by
  by_cases given : ∃ op, v.get "op" = some (.posInt op)
  · obtain ⟨op, given⟩ := given
    rw [classifyValue_of_op given]
    split
    next => exact ⟨fun _ _ same => by cases same; exact ⟨rfl, rfl⟩, nofun⟩
    next =>
      split
      · exact ⟨nofun, fun _ _ _ same => by cases same; exact ⟨rfl, rfl, rfl⟩⟩
      · exact ⟨nofun, nofun⟩
  · rw [classifyValue_of_no_op (not_exists.mp given)]
    exact ⟨nofun, nofun⟩

theorem identify_fields {v : Value} {rpc : Option UInt64} {authentication : Option String}
    (classified : classifyValue v = .identify rpc authentication) :
    (∀ version, rpc = some version ↔ v.payload "rpcVersion" = some (.posInt version)) ∧
      ∀ text, authentication = some text ↔
        v.payload "authentication" = some (.string text) := by
  obtain ⟨rfl, rfl⟩ := (classified_fields v).1 rpc authentication classified
  exact ⟨fun _ => Value.bind_asU64_eq_some_iff, fun _ => Value.bind_asStr_eq_some_iff⟩

theorem request_fields {v : Value} {requestType requestId : String} {requestData : Value}
    (classified : classifyValue v = .request requestType requestId requestData) :
    v.HasText "requestType" requestType ∧ v.HasText "requestId" requestId ∧
      (∀ data, v.payload "requestData" = some data → requestData = data) ∧
      (v.payload "requestData" = none → requestData = .null) := by
  obtain ⟨rfl, rfl, rfl⟩ :=
    (classified_fields v).2 requestType requestId requestData classified
  refine ⟨v.hasText_getD _, v.hasText_getD _, ?_, ?_⟩
  · intro data present
    rw [present]
    rfl
  · intro absent
    rw [absent]
    rfl

theorem classified_kinds {v : Value} {op : UInt64} (given : v.get "op" = some (.posInt op)) :
    ((∃ rpc authentication, classifyValue v = .identify rpc authentication) ↔
        op.toUInt8 = 1) ∧
      ((∃ requestType requestId requestData,
        classifyValue v = .request requestType requestId requestData) ↔ op.toUInt8 = 6) ∧
      (classifyValue v = .obs ↔ op.toUInt8 ≠ 1 ∧ op.toUInt8 ≠ 6) ∧
      classifyValue v ≠ .legacy := by
  rw [classifyValue_of_op given]
  by_cases identify : op.toUInt8 = 1
  · simp [identify]
  · by_cases request : op.toUInt8 = 6
    · simp [request]
    · simp [identify, request]

/-- A message is classified as promised exactly if its opcode, when it has one, is not a
larger number with the low byte of another. -/
theorem classifiedExactly_iff (v : Value) :
    ClassifiedExactly v ↔ ∀ op, v.get "op" = some (.posInt op) → OpcodeFits op := by
  constructor
  · intro promised op given
    obtain ⟨identify, request, -⟩ := classified_kinds given
    rw [opcodeFits_iff, ← identify, ← request, promised.identify, promised.request, given]
    simp
  · intro fits
    by_cases given : ∃ op, v.get "op" = some (.posInt op)
    · obtain ⟨op, given⟩ := given
      obtain ⟨identify, request, obs, legacy⟩ := classified_kinds given
      obtain ⟨one, six⟩ := (opcodeFits_iff op).mp (fits op given)
      exact {
        identify := by rw [identify, one, given]; simp
        request := by rw [request, six, given]; simp
        obs := by rw [obs, given, Ne, Ne, one, six]; simp
        legacy := by simp [legacy, given]
        identifyFields := fun _ _ => identify_fields
        requestFields := fun _ _ _ => request_fields }
    · have legacy := classifyValue_of_no_op (not_exists.mp given)
      have missing := not_exists.mp given
      exact {
        identify := by simp [legacy, missing]
        request := by simp [legacy, missing]
        obs := by simp [legacy, missing]
        legacy := by simp [legacy, missing]
        identifyFields := fun _ _ => identify_fields
        requestFields := fun _ _ _ => request_fields }

/-- `{"op": 257, "d": {"rpcVersion": 1}}`, an opcode that no side of the protocol uses. -/
def unknownOpcode : Value :=
  .object [("op", .posInt 257), ("d", .object [("rpcVersion", .posInt 1)])]

theorem unknownOpcode_identifies :
    classifyValue unknownOpcode = .identify (some 1) none ∧
      ¬ClassifiedExactly unknownOpcode := by
  refine ⟨rfl, ?_⟩
  intro promised
  have opcode := promised.identify.mp ⟨some 1, none, rfl⟩
  have different : unknownOpcode.get "op" = some (.posInt 257) := rfl
  rw [different] at opcode
  cases opcode

end RejiStudio.Ws
