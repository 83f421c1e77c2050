import Commissioner.CborDecode
import Commissioner.TokenMachine

/-!
# The configuration envelope

`send_config_command` encodes `subcommand_params` twice: with `cbor2.dumps` for the message it
authenticates, and inside `config_data` with fido2's canonical encoder when `Ctap2.send_cbor`
transmits it.  The authenticator checks the tag over the bytes it received under key `0x02`, so
the two encodings must agree.  They do for every parameter id and value a 64-bit head holds:
both encoders write such a dictionary alike, and its keys `0x01`, `0x03` are already in
canonical order.
-/

namespace Commissioner

theorem Fido2.dumpHead_lt {mt data : Nat} {bytes : Bytes} (h : Fido2.dumpHead mt data = some bytes) :
    data < 2 ^ 64 := by
  unfold Fido2.dumpHead at h
  split_ifs at h <;> omega

/-- `dump_int` writes exactly the integers a 64-bit head holds. -/
theorem Fido2.dumpInt_range {value : Int} {mt : Nat} {bytes : Bytes}
    (h : Fido2.dumpInt value mt = some bytes) : -2 ^ 64 ≤ value ∧ value < 2 ^ 64 := by
  unfold Fido2.dumpInt at h
  split_ifs at h <;> have := Fido2.dumpHead_lt h <;> omega

theorem subcommandParams_canonical {vendorCommandId paramValue : Int}
    (hid : -2 ^ 64 ≤ vendorCommandId ∧ vendorCommandId < 2 ^ 64)
    (hvalue : -2 ^ 64 ≤ paramValue ∧ paramValue < 2 ^ 64) :
    Canonical (subcommandParams vendorCommandId paramValue) := by
  simp only [subcommandParams, Canonical, CanonicalEntries]
  exact ⟨by norm_num, ⟨by norm_num, by omega, by norm_num, by omega, trivial⟩,
    by simp only [List.map_cons, List.map_nil]; decide⟩

theorem configData_canonical {vendorCommandId paramValue : Int} {protocol : PinProtocol}
    {pinAuth : Bytes} (hid : -2 ^ 64 ≤ vendorCommandId ∧ vendorCommandId < 2 ^ 64)
    (hvalue : -2 ^ 64 ≤ paramValue ∧ paramValue < 2 ^ 64) (hversion : protocol.version < 2 ^ 64)
    (hauth : pinAuth.length < 2 ^ 64) :
    Canonical (configData vendorCommandId paramValue protocol pinAuth) := by
  simp only [configData, Canonical, CanonicalEntries]
  exact ⟨by norm_num, ⟨by norm_num, by norm_num, by norm_num,
    subcommandParams_canonical hid hvalue, by norm_num, by omega, by norm_num, hauth, trivial⟩,
    by simp only [List.map_cons, List.map_nil]; decide⟩

/-- `dump_dict` encodes every value of a dictionary it encodes. -/
theorem Fido2.encodeEntries_value : ∀ {entries : List (Cbor × Cbor)} {items : List (Bytes × Bytes)},
    Fido2.encodeEntries entries = some items →
    ∀ {k v : Cbor}, (k, v) ∈ entries → ∃ bytes, Fido2.encode v = some bytes
  | [], _, _, _, _, hmem => absurd hmem (List.not_mem_nil _)
  | (k', v') :: rest, items, h, k, v, hmem => by
      simp only [Fido2.encodeEntries, bind, Option.bind_eq_some] at h
      obtain ⟨_, -, bytes, hv', more, hrest, -⟩ := h
      rcases List.mem_cons.mp hmem with heq | hmem
      · cases heq
        exact ⟨bytes, hv'⟩
      · exact Fido2.encodeEntries_value hrest hmem

/-- `send_cbor` encodes `config_data` only when the version and the tag fit a 64-bit head. -/
theorem encode_configData_range {vendorCommandId paramValue : Int} {protocol : PinProtocol}
    {pinAuth wire : Bytes}
    (h : Fido2.encode (configData vendorCommandId paramValue protocol pinAuth) = some wire) :
    protocol.version < 2 ^ 64 ∧ pinAuth.length < 2 ^ 64 := by
  obtain ⟨items, hitems, -⟩ := Option.bind_eq_some.mp h
  obtain ⟨_, hversion⟩ := Fido2.encodeEntries_value hitems (k := .int 3) (v := .int protocol.version)
    (by simp)
  obtain ⟨_, hauth⟩ := Fido2.encodeEntries_value hitems (k := .int 4) (v := .bytes pinAuth) (by simp)
  obtain ⟨_, hauth, -⟩ := Option.map_eq_some'.mp hauth
  have := (Fido2.dumpInt_range hversion).2
  have := (Fido2.dumpInt_range hauth).2
  omega

/-- `cbor2` writes `config_data` in insertion order: the head of a four-entry map, `0x01`,
`0xFF`, `0x02`, then the parameters as they were authenticated. -/
theorem dumps_configData {vendorCommandId paramValue : Int} {protocol : PinProtocol}
    {pinAuth subcommandBytes : Bytes}
    (hparams : Cbor2.dumps (subcommandParams vendorCommandId paramValue) = some subcommandBytes)
    (hversion : protocol.version < 2 ^ 64) (hauth : pinAuth.length < 2 ^ 64) :
    ∃ post, Cbor2.dumps (configData vendorCommandId paramValue protocol pinAuth) =
      some ([0xa4, 0x01, 0x18, 0xff, 0x02] ++ subcommandBytes ++ post) := by
  obtain ⟨versionBytes, hv⟩ := @Cbor2.encodeInt_isSome protocol.version (by omega) (by omega)
  obtain ⟨authHead, ha⟩ := @Cbor2.encodeLength_isSome 2 pinAuth.length hauth
  refine ⟨[0x03] ++ versionBytes ++ [0x04] ++ authHead ++ pinAuth, ?_⟩
  have h1 : Cbor2.dumps (.int 1) = some [0x01] := rfl
  have h2 : Cbor2.dumps (.int 2) = some [0x02] := rfl
  have h3 : Cbor2.dumps (.int 3) = some [0x03] := rfl
  have h4 : Cbor2.dumps (.int 4) = some [0x04] := rfl
  have h255 : Cbor2.dumps (.int 255) = some [0x18, 0xff] := rfl
  have hlen : Cbor2.encodeLength 5 4 = some [0xa4] := rfl
  have hv : Cbor2.dumps (.int protocol.version) = some versionBytes := hv
  simp [configData, Cbor2.dumps.eq_3, Cbor2.dumps.eq_2, Cbor2.dumpsEntries.eq_2,
    Cbor2.dumpsEntries.eq_1, hparams, hv, ha, h1, h2, h3, h4, h255, hlen]

/-- The bytes `send_cbor` transmits for `config_data` hold, right after the key `0x02`, exactly
the bytes the tag was computed over: reading one item there consumes them and gives back the
parameters.  The whole request reads back as `config_data`. -/
theorem encode_configData {vendorCommandId paramValue : Int} {protocol : PinProtocol}
    {pinAuth subcommandBytes wire : Bytes}
    (hid : -2 ^ 64 ≤ vendorCommandId ∧ vendorCommandId < 2 ^ 64)
    (hvalue : -2 ^ 64 ≤ paramValue ∧ paramValue < 2 ^ 64)
    (hparams : Cbor2.dumps (subcommandParams vendorCommandId paramValue) = some subcommandBytes)
    (h : Fido2.encode (configData vendorCommandId paramValue protocol pinAuth) = some wire) :
    ∃ post, wire = [0xa4, 0x01, 0x18, 0xff, 0x02] ++ subcommandBytes ++ post ∧
      decodeItem (subcommandBytes ++ post).length (subcommandBytes ++ post) =
        some (subcommandParams vendorCommandId paramValue, post) ∧
      decode wire = some (configData vendorCommandId paramValue protocol pinAuth) := by
  obtain ⟨hversion, hauth⟩ := encode_configData_range h
  obtain ⟨bytes, hencode, hdumps⟩ :=
    encode_eq_dumps _ (configData_canonical hid hvalue hversion hauth)
  obtain ⟨post, hlayout⟩ := dumps_configData hparams hversion hauth
  have hwire : wire = [0xa4, 0x01, 0x18, 0xff, 0x02] ++ subcommandBytes ++ post :=
    Option.some.inj (h.symm.trans (hencode.trans (hdumps.symm.trans hlayout)))
  refine ⟨post, hwire, decodeItem_dumps _ _ _ hparams ?_ post, decode_dumps (hwire ▸ hlayout)⟩
  have := depth_le_length _ _ hparams
  simp only [List.length_append]
  omega

/-- The calls `send_config_command` makes: those of `get_pin_token`, one `authenticate` over the
encoded parameters, one `send_cbor` of `config_data`. -/
theorem sendConfigCommand_event {w : World} {vendorCommandId paramValue : Int}
    {fates : SendFates} {e : Event}
    (h : e ∈ (sendConfigCommand w vendorCommandId paramValue fates).events) :
    (∃ clientPin pin outcome, e = .getPinToken clientPin pin permissionAcfg outcome) ∨
    (∃ protocol key subcommandBytes outcome,
      Cbor2.dumps (subcommandParams vendorCommandId paramValue) = some subcommandBytes ∧
      e = .authenticate protocol key (configMessage subcommandBytes) outcome) ∨
    (∃ protocol pinAuth outcome,
      e = .sendCbor ctapAuthenticatorConfig (configData vendorCommandId paramValue protocol pinAuth)
        outcome) := by
  rcases @sendConfigCommand_cases w vendorCommandId paramValue fates _ rfl with
    ⟨_, hr⟩ | ⟨_, hr | ⟨_, _, _, _, _, hdumps, ⟨_, _, hr⟩ | ⟨_, ⟨_, _, hr⟩ | ⟨_, hr⟩⟩⟩⟩ <;>
    rw [hr] at h <;> try simp only [configFailure_events] at h
  · exact .inl (ensureToken_event h)
  · exact .inl (ensureToken_event h)
  all_goals
    simp only [List.mem_append, List.mem_singleton] at h
  · rcases h with h | rfl
    · exact .inl (ensureToken_event h)
    · exact .inr (.inl ⟨_, _, _, _, hdumps, rfl⟩)
  all_goals
    rcases h with (h | rfl) | rfl
    · exact .inl (ensureToken_event h)
    · exact .inr (.inl ⟨_, _, _, _, hdumps, rfl⟩)
    · exact .inr (.inr ⟨_, _, _, rfl⟩)

/-- For every parameter id and value a 64-bit head holds, `cbor2.dumps` and the canonical
encoder write `subcommand_params` as the same bytes `B`, which read back as the parameters.
`send_config_command` authenticates 32 bytes `0xff`, `0x0d`, `0xff`, then `B`; and the request it
hands to `send_cbor`, once encoded, holds the map head, key `0x01` with `0xFF`, key `0x02`, then
exactly `B`, and reads back as the request. -/
theorem configMessage_covers_sent_params {w : World} {vendorCommandId paramValue : Int}
    {fates : SendFates} (hid : -2 ^ 64 ≤ vendorCommandId ∧ vendorCommandId < 2 ^ 64)
    (hvalue : -2 ^ 64 ≤ paramValue ∧ paramValue < 2 ^ 64) :
    ∃ subcommandBytes,
      Cbor2.dumps (subcommandParams vendorCommandId paramValue) = some subcommandBytes ∧
      Fido2.encode (subcommandParams vendorCommandId paramValue) = some subcommandBytes ∧
      decode subcommandBytes = some (subcommandParams vendorCommandId paramValue) ∧
      (∀ protocol key message outcome, Event.authenticate protocol key message outcome ∈
          (sendConfigCommand w vendorCommandId paramValue fates).events →
        message = List.replicate 32 0xff ++ [0x0d, 0xff] ++ subcommandBytes) ∧
      (∀ cmd data outcome wire, Event.sendCbor cmd data outcome ∈
          (sendConfigCommand w vendorCommandId paramValue fates).events →
        Fido2.encode data = some wire →
        ∃ post, wire = [0xa4, 0x01, 0x18, 0xff, 0x02] ++ subcommandBytes ++ post ∧
          decodeItem (subcommandBytes ++ post).length (subcommandBytes ++ post) =
            some (subcommandParams vendorCommandId paramValue, post) ∧
          decode wire = some data) := by
  obtain ⟨bytes, hencode, hdumps⟩ := encode_eq_dumps _ (subcommandParams_canonical hid hvalue)
  refine ⟨bytes, hdumps, hencode, decode_dumps hdumps, fun _ _ message _ hmem => ?_,
    fun _ data _ wire hmem hwire => ?_⟩
  · rcases sendConfigCommand_event hmem with ⟨_, _, _, he⟩ | ⟨_, _, _, _, hbytes, he⟩ | ⟨_, _, _, he⟩
    · cases he
    · obtain ⟨-, -, rfl, -⟩ := Event.authenticate.inj he
      rw [Option.some.inj (hbytes.symm.trans hdumps)]
      rfl
    · cases he
  · rcases sendConfigCommand_event hmem with ⟨_, _, _, he⟩ | ⟨_, _, _, _, _, he⟩ | ⟨_, _, _, he⟩
    · cases he
    · cases he
    · obtain ⟨-, rfl, -⟩ := Event.sendCbor.inj he
      exact encode_configData hid hvalue hdumps hwire

theorem configMessage_covers_sent_params_vidpid :
    let vendorCommandId : Int := 0x6fcb19b0cbe3acfa
    let paramValue : Int := 0x2E8A10FE
    let info : Info := ⟨[("clientPin", true)], [2, 1]⟩
    let found := findDevice World.init ⟨.returns true, .returns info, .returns info⟩
    let login := (Step.getPinToken (some "1234") ⟨.returns "", .returns [1]⟩).run found.world
    let fates : SendFates := ⟨⟨.returns "", .returns [3]⟩, .returns [2], .returns ()⟩
    let sent := sendConfigCommand login.world vendorCommandId paramValue fates
    (∃ protocol key message outcome,
      Event.authenticate protocol key message outcome ∈ sent.events) ∧
    (∃ cmd data outcome wire,
      Event.sendCbor cmd data outcome ∈ sent.events ∧ Fido2.encode data = some wire) ∧
    (-2 ^ 64 ≤ vendorCommandId ∧ vendorCommandId < 2 ^ 64) ∧
    (-2 ^ 64 ≤ paramValue ∧ paramValue < 2 ^ 64) ∧
    ∃ subcommandBytes,
      Cbor2.dumps (subcommandParams vendorCommandId paramValue) = some subcommandBytes ∧
      Fido2.encode (subcommandParams vendorCommandId paramValue) = some subcommandBytes ∧
      decode subcommandBytes = some (subcommandParams vendorCommandId paramValue) ∧
      (∀ protocol key message outcome, Event.authenticate protocol key message outcome ∈
          sent.events → message = List.replicate 32 0xff ++ [0x0d, 0xff] ++ subcommandBytes) ∧
      (∀ cmd data outcome wire, Event.sendCbor cmd data outcome ∈ sent.events →
        Fido2.encode data = some wire →
        ∃ post, wire = [0xa4, 0x01, 0x18, 0xff, 0x02] ++ subcommandBytes ++ post ∧
          decodeItem (subcommandBytes ++ post).length (subcommandBytes ++ post) =
            some (subcommandParams vendorCommandId paramValue, post) ∧
          decode wire = some data) :=
  have hid : -2 ^ 64 ≤ (0x6fcb19b0cbe3acfa : Int) ∧ (0x6fcb19b0cbe3acfa : Int) < 2 ^ 64 :=
    ⟨by norm_num, by norm_num⟩
  have hvalue : -2 ^ 64 ≤ (0x2E8A10FE : Int) ∧ (0x2E8A10FE : Int) < 2 ^ 64 :=
    ⟨by norm_num, by norm_num⟩
  ⟨⟨_, _, _, _, .head _⟩, ⟨_, _, _, _, .tail _ (.head _), rfl⟩, hid, hvalue,
    configMessage_covers_sent_params hid hvalue⟩

/-- An auth tag binds the parameter setting it was made for: whenever two `send_config_command`
calls, from any sessions, authenticate the same message, they were asked to set the same vendor
parameter to the same value. -/
theorem configMessage_binds_params {w w' : World}
    {vendorCommandId paramValue vendorCommandId' paramValue' : Int} {fates fates' : SendFates}
    {protocol protocol' : PinProtocol} {key key' message : Bytes} {outcome outcome' : Outcome Bytes}
    (h : Event.authenticate protocol key message outcome ∈
      (sendConfigCommand w vendorCommandId paramValue fates).events)
    (h' : Event.authenticate protocol' key' message outcome' ∈
      (sendConfigCommand w' vendorCommandId' paramValue' fates').events) :
    vendorCommandId = vendorCommandId' ∧ paramValue = paramValue' := by
  rcases sendConfigCommand_event h with ⟨_, _, _, he⟩ | ⟨_, _, bytes, _, hdumps, he⟩ | ⟨_, _, _, he⟩ <;>
    cases he
  -- the two messages share their fixed prefix, so `cases` equates the encoded parameters
  rcases sendConfigCommand_event h' with ⟨_, _, _, he⟩ | ⟨_, _, _, _, hdumps', he⟩ | ⟨_, _, _, he⟩ <;>
    cases he
  have hparams := (decode_dumps hdumps).symm.trans (decode_dumps hdumps')
  simp only [subcommandParams, Option.some.injEq, Cbor.map.injEq, List.cons.injEq, Prod.mk.injEq,
    Cbor.int.injEq, true_and, and_true] at hparams
  exact hparams

theorem configMessage_binds_params_across_sessions :
    let info : Info := ⟨[("clientPin", true)], [2, 1]⟩
    let found := findDevice World.init ⟨.returns true, .returns info, .returns info⟩
    let login := (Step.getPinToken (some "1234") ⟨.returns "", .returns [1]⟩).run found.world
    let login' := (Step.getPinToken (some "1234") ⟨.returns "", .returns [2]⟩).run found.world
    let message := configMessage [0xa2, 0x01, 0x00, 0x03, 0x18, 0x1e]
    Event.authenticate ⟨2⟩ [1] message (.returns [7]) ∈ (sendConfigCommand login.world 0 30
      ⟨⟨.returns "", .returns [3]⟩, .returns [7], .returns ()⟩).events ∧
    Event.authenticate ⟨2⟩ [2] message (.returns [8]) ∈ (sendConfigCommand login'.world 0 30
      ⟨⟨.returns "", .returns [3]⟩, .returns [8], .raises .exception⟩).events ∧
    (0 : Int) = 0 ∧ (30 : Int) = 30 :=
  by
  intro info found login login' message
  refine ⟨?mem, ?mem', configMessage_binds_params ?mem ?mem'⟩
  · exact .head _
  · exact .head _

end Commissioner
