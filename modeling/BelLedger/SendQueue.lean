import BelLedger.ChainedQueues
import Mathlib.Tactic.IntervalCases

/-!
# The send queue of a wallet

`EvmBlockchainAdapter.sendAs` queues the transactions of one wallet on a chain of promises, so that the
pending count is read only after the broadcast before it has ended.
-/
namespace BelLedger.SendQueue
open ChainedQueues

variable {ε : Type}

/-- `address.toLowerCase()`; an address is ASCII. -/
def toLowerCase (address : String) : String := String.ofList (address.toList.map Char.toLower)

/-- The target is the field `to`. -/
structure PreparedTransaction where
  target : String
  data : String
  value : Option String
  gasLimit : Option String

/-- The arguments of `sendAs`; of the wallet, only the address is used before it signs. -/
structure Send where
  wallet : String
  p : PreparedTransaction

/-- What the wallet is asked to sign and send. -/
structure TransactionRequest where
  target : String
  data : String
  nonce : ℕ
  gasLimit : String
  value : String
  deriving DecidableEq

def request (p : PreparedTransaction) (nonce : ℕ) (gasLimit : String) : TransactionRequest :=
  { target := p.target, data := p.data, nonce, gasLimit, value := p.value.getD "0" }

/-- What a call in its turn waits for. -/
inductive Turn
  | readingNonce
  | estimatingGas (nonce : ℕ)
  | sending (tx : TransactionRequest)
  deriving DecidableEq

inductive Answer (ε : Type)
  | thrown (error : ε)
  | count (pending : ℕ)
  | gas (estimate : ℕ)
  | sent (hash : String)

/-- The gas is estimated only when no limit is given. -/
def resume (c : Send) : Turn → Answer ε → Option (Turn ⊕ Except ε String)
  | .readingNonce,.count nonce =>
    match c.p.gasLimit with
    | some gasLimit => some (.inl (.sending (request c.p nonce gasLimit)))
    | none => some (.inl (.estimatingGas nonce))
  | .estimatingGas nonce,.gas estimate =>
    some (.inl (.sending (request c.p nonce (toString estimate))))
  | .sending _,.sent hash => some (.inr (.ok hash))
  | _,.thrown error => some (.inr (.error error))
  | _,_ => none

def Turn.rank : Turn → ℕ
  | .readingNonce => 2
  | .estimatingGas _ => 1
  | .sending _ => 0

/-- What a turn does next. -/
inductive Resumed (c : Send) : Turn → Answer ε → Turn ⊕ Except ε String → Prop
  | limited {gasLimit : String} (nonce : ℕ) (hlimit : c.p.gasLimit = some gasLimit) :
      Resumed c .readingNonce (.count nonce) (.inl (.sending (request c.p nonce gasLimit)))
  | unlimited (nonce : ℕ) (hlimit : c.p.gasLimit = none) :
      Resumed c .readingNonce (.count nonce) (.inl (.estimatingGas nonce))
  | estimated (nonce estimate : ℕ) : Resumed c (.estimatingGas nonce) (.gas estimate)
      (.inl (.sending (request c.p nonce (toString estimate))))
  | sent (tx : TransactionRequest) (hash : String) :
      Resumed c (.sending tx) (.sent hash) (.inr (.ok hash))
  | thrown (turn : Turn) (error : ε) : Resumed c turn (.thrown error) (.inr (.error error))

theorem resume_cases {c : Send} {turn : Turn} {a : Answer ε} {next : Turn ⊕ Except ε String}
    (h : resume c turn a = some next) : Resumed c turn a next := by
  unfold resume at h
  split at h
  · split at h
    · rename_i hlimit
      obtain rfl := Option.some.inj h
      exact .limited _ hlimit
    · rename_i hlimit
      obtain rfl := Option.some.inj h
      exact .unlimited _ hlimit
  · obtain rfl := Option.some.inj h
    exact .estimated _ _
  · obtain rfl := Option.some.inj h
    exact .sent _ _
  · obtain rfl := Option.some.inj h
    exact .thrown _ _
  · cases h

/-- `sendAs`: after the queueing, the nonce, the gas and the broadcast. -/
def sendAs (ε : Type) : Body Send String Turn (Answer ε) (Except ε String) where
  key c := toLowerCase c.wallet
  start _ := .readingNonce
  resume := resume
  rank := Turn.rank
  decreases c turn a turn' h := by
    cases resume_cases h with
    | limited => exact Nat.zero_lt_succ 1
    | unlimited => exact Nat.one_lt_two
    | estimated => exact Nat.zero_lt_one
  answerable c turn := by
    cases turn with
    | readingNonce =>
      cases hlimit : c.p.gasLimit with
      | some gasLimit =>
        exact ⟨.count 0,.inl (.sending (request c.p 0 gasLimit)),by simp only [resume,hlimit]⟩
      | none => exact ⟨.count 0,.inl (.estimatingGas 0),by simp only [resume,hlimit]⟩
    | estimatingGas nonce => exact ⟨.gas 0,_,rfl⟩
    | sending tx => exact ⟨.sent "",_,rfl⟩

abbrev SendCall (ε : Type) := Call Send Turn (Except ε String)

/-- One queue serves all spellings of an address. -/
def SameWallet (c d : Send) : Prop := toLowerCase c.wallet = toLowerCase d.wallet

/-- The sections of one wallet never overlap and are entered in the order of the calls, and the entry
of a wallet is gone only while no call for it waits or is in its section. -/
structure Mutex (x : Execution (sendAs ε)) : Prop where
  exclusive : ∀ (n i j : ℕ) (c d : SendCall ε),(x.state n).calls[i]? = some c →
    (x.state n).calls[j]? = some d → SameWallet c.argument d.argument → c.Inside → d.Inside → i = j
  ordered : ∀ (n i j : ℕ) (c d : SendCall ε),(x.state n).calls[i]? = some c →
    (x.state n).calls[j]? = some d → SameWallet c.argument d.argument → i < j → d.Entered → c.Left
  deleted : ∀ (n i : ℕ) (c : SendCall ε),(x.state n).calls[i]? = some c →
    (x.state n).entries (toLowerCase c.argument.wallet) = none → c.Left

/-- Every call enters and leaves its section exactly once. -/
def Once (x : Execution (sendAs ε)) : Prop :=
  ∀ (n i : ℕ) (c : SendCall ε),(x.state n).calls[i]? = some c →
    (∃! m,x.Enters m i) ∧ ∃! m,x.Leaves m i

/-- The call reads this pending count at this moment. -/
def Counts (x : Execution (sendAs ε)) (n i pending : ℕ) : Prop :=
  x.event n = some (.act i (.answer (.count pending)))

/-- The call's broadcast with this nonce succeeds at this moment. -/
def Broadcasts (x : Execution (sendAs ε)) (n i nonce : ℕ) : Prop :=
  ∃ (c : SendCall ε) (tx : TransactionRequest) (hash : String),(x.state n).calls[i]? = some c ∧
    c.phase = .inside (.sending tx) ∧ tx.nonce = nonce ∧ x.event n = some (.act i (.answer (.sent hash)))

/-- The pending count that the node gives after a successful broadcast exceeds its nonce. -/
def CountsBroadcasts (x : Execution (sendAs ε)) : Prop :=
  ∀ (n m i j nonce pending : ℕ) (c d : SendCall ε),n < m → Broadcasts x n i nonce →
    Counts x m j pending → (x.state m).calls[i]? = some c → (x.state m).calls[j]? = some d →
    SameWallet c.argument d.argument → nonce < pending

/-- No two successful broadcasts from one wallet use the same nonce. -/
def NoncesDistinct (x : Execution (sendAs ε)) : Prop :=
  ∀ (n m i j nonce : ℕ) (c d : SendCall ε),Broadcasts x n i nonce → Broadcasts x m j nonce →
    (x.state n).calls[i]? = some c → (x.state m).calls[j]? = some d →
    SameWallet c.argument d.argument → n = m ∧ i = j

section Nonces
variable {x : Execution (sendAs ε)}

/-- The nonce of a turn that has read it. -/
def Turn.nonce : Turn → Option ℕ
  | .readingNonce => none
  | .estimatingGas nonce => some nonce
  | .sending tx => some tx.nonce

/-- The nonce of a turn is a count that its call has read. -/
theorem nonce_counted {n i nonce : ℕ} {c : SendCall ε} {turn : Turn}
    (hc : (x.state n).calls[i]? = some c) (hphase : c.phase = .inside turn)
    (hnonce : turn.nonce = some nonce) : ∃ r,r < n ∧ Counts x r i nonce := by
  induction n generalizing c turn with
  | zero =>
    rw [x.starts] at hc
    cases hc
  | succ n ih =>
    have hlater : (∃ r,r < n ∧ Counts x r i nonce) → ∃ r,r < n + 1 ∧ Counts x r i nonce :=
      fun ⟨r,hr,hcounts⟩ => ⟨r,Nat.lt_succ_of_lt hr,hcounts⟩
    by_cases hacts : ∃ a,x.event n = some (.act i a)
    · obtain ⟨a,ha⟩ := hacts
      obtain ⟨d,d',hd,hd',hact⟩ := Execution.acted_of_event ha
      obtain rfl := Option.some.inj (hd'.symm.trans hc)
      cases hact with
      | enter =>
        obtain rfl := Phase.inside.inj hphase
        cases hnonce
      | answer a hinside hnext =>
        cases resume_cases hnext with
        | limited read hlimit =>
          obtain rfl := Phase.inside.inj hphase
          obtain rfl := Option.some.inj hnonce
          exact ⟨n,Nat.lt_succ_self n,ha⟩
        | unlimited read hlimit =>
          obtain rfl := Phase.inside.inj hphase
          obtain rfl := Option.some.inj hnonce
          exact ⟨n,Nat.lt_succ_self n,ha⟩
        | estimated read estimate =>
          obtain rfl := Phase.inside.inj hphase
          exact hlater (ih hd hinside hnonce)
        | sent => cases hphase
        | thrown => cases hphase
      | settle => cases hphase
    · rw [not_exists] at hacts
      have hentered : c.Entered := by
        rw [Call.Entered,hphase]
        exact Nat.le_refl 1
      exact hlater (ih (Execution.kept_of_no_act hacts hc hentered) hphase hnonce)

theorem Broadcasts.inside {n i nonce : ℕ} (h : Broadcasts x n i nonce) {c : SendCall ε}
    (hc : (x.state n).calls[i]? = some c) :
    ∃ tx,c.phase = .inside (.sending tx) ∧ tx.nonce = nonce := by
  obtain ⟨d,tx,hash,hd,hphase,hnonce,-⟩ := h
  obtain rfl := Option.some.inj (hc.symm.trans hd)
  exact ⟨tx,hphase,hnonce⟩

/-- A successful broadcast ends the turn. -/
theorem Broadcasts.leaves {n i nonce : ℕ} (h : Broadcasts x n i nonce) : x.Leaves n i := by
  obtain ⟨c,tx,hash,hc,hphase,-,he⟩ := h
  refine ⟨⟨_,he⟩,?_⟩
  obtain ⟨d,d',hd,hd',hact⟩ := Execution.acted_of_event he
  obtain rfl := Option.some.inj (hc.symm.trans hd)
  cases hact with
  | answer a hinside hnext =>
    cases resume_cases hnext with
    | sent => exact ⟨_,hd',Nat.le_refl 2⟩

/-- The nonce of a later call was counted after the broadcast of an earlier one. -/
private theorem not_earlier (hcounts : CountsBroadcasts x) {n m i j nonce : ℕ}
    (hb : Broadcasts x n i nonce) (hb' : Broadcasts x m j nonce) {c d : SendCall ε}
    (hc : (x.state n).calls[i]? = some c) (hd : (x.state m).calls[j]? = some d)
    (hsame : SameWallet c.argument d.argument) : ¬i < j := by
  intro hij
  obtain ⟨tx,hphase,hnonce⟩ := hb'.inside hd
  obtain ⟨r,-,hread⟩ := nonce_counted hd hphase (by rw [Turn.nonce,hnonce])
  obtain ⟨reader,reader',hreader,-,hact⟩ := Execution.acted_of_event hread
  have hlt : i < (x.state r).calls.length :=
    Nat.lt_trans hij (List.getElem?_eq_some_iff.mp hreader).1
  have hearlier : (x.state r).calls[i]? = some (x.state r).calls[i] := List.getElem?_eq_getElem hlt
  have hwallets : SameWallet (x.state r).calls[i].argument reader.argument := by
    rw [← Execution.argument_eq hc hearlier,← Execution.argument_eq hd hreader]
    exact hsame
  have hentered : reader.Entered := by
    cases hact with
    | answer a hinside =>
      rw [Call.Entered,hinside]
      exact Nat.le_refl 1
  have hleft : x.Left r i := ⟨_,hearlier,
    Execution.left_of_entered hearlier hreader hwallets hij hentered⟩
  have hnr : n < r := by
    by_contra hle
    exact (Execution.leaves_iff.mp hb.leaves).1 (hleft.mono (Nat.le_of_not_lt hle))
  exact absurd (hcounts n r i j nonce nonce _ _ hnr hb hread hearlier hreader hwallets)
    (Nat.lt_irrefl nonce)

theorem noncesDistinct (hcounts : CountsBroadcasts x) : NoncesDistinct x := by
  intro n m i j nonce c d hb hb' hc hd hsame
  have hij : i = j := by
    apply Nat.le_antisymm
    · exact Nat.le_of_not_lt (not_earlier hcounts hb' hb hd hc hsame.symm)
    · exact Nat.le_of_not_lt (not_earlier hcounts hb hb' hc hd hsame)
  refine ⟨?_,hij⟩
  rw [← hij] at hb'
  exact Execution.leaves_unique hb.leaves hb'.leaves

end Nonces

/-- In every interleaving the queue of a wallet is a fair mutex, and where the node counts the
transactions that it has accepted no nonce is used twice. -/
theorem send_queue_fair (x : Execution (sendAs ε)) :
    Mutex x ∧ (x.Fair → Once x) ∧ (CountsBroadcasts x → NoncesDistinct x) := by
  refine ⟨⟨?_,?_,?_⟩,?_,noncesDistinct⟩
  · exact fun n i j c d hc hd hsame => Execution.exclusive hc hd hsame
  · exact fun n i j c d hc hd hsame => Execution.left_of_entered hc hd hsame
  · exact fun n i c hc hnone => Execution.left_of_no_entry hnone hc rfl
  · exact fun hfair n i c hc => ⟨Execution.enters_once hfair hc,Execution.leaves_once hfair hc⟩

section Prototype

def transfer (gasLimit : Option String) : PreparedTransaction :=
  { target := "0x00000000000000000000000000000000000000aa", data := "0x", value := none, gasLimit }

/-- Three calls for one wallet: the first one fails when it reads the nonce, and the third one is made
while the second one is in its section. -/
def threeSends : List (Event Send (Answer String)) :=
  [.call ⟨"0x00000000000000000000000000000000000000Ee",transfer none⟩,
   .call ⟨"0x00000000000000000000000000000000000000ee",transfer (some "90000")⟩,
   .act 0 .enter,.act 0 (.answer (.thrown "timeout")),.act 0 .settle,
   .act 1 .enter,.act 1 (.answer (.count 7)),
   .call ⟨"0x00000000000000000000000000000000000000EE",transfer none⟩,
   .act 1 (.answer (.sent "0x01")),.act 1 .settle,
   .act 2 .enter,.act 2 (.answer (.count 8)),.act 2 (.answer (.gas 21000)),
   .act 2 (.answer (.sent "0x02")),.act 2 .settle]

def threeSendsRun : Execution (sendAs String) := Execution.ofEvents (sendAs String) threeSends

theorem threeSendsRun_fair : threeSendsRun.Fair := Execution.ofEvents_fair (by decide +kernel)

private theorem threeSends_of_event {n : ℕ} {e : Event Send (Answer String)}
    (h : threeSendsRun.event n = some e) : threeSends[n]? = some e :=
  (Option.filter_eq_some_iff.mp h).1

private theorem threeSends_count {m j pending : ℕ} (h : Counts threeSendsRun m j pending) :
    (m = 6 ∧ pending = 7) ∨ m = 11 ∧ pending = 8 := by
  have he := threeSends_of_event h
  have hlt : m < 15 := (List.getElem?_eq_some_iff.mp he).1
  interval_cases m <;> simp [threeSends] at he ⊢
  · exact he.2.symm
  · exact he.2.symm

private theorem threeSends_sent {n i nonce : ℕ} (h : Broadcasts threeSendsRun n i nonce) :
    n = 8 ∨ n = 13 := by
  obtain ⟨c,tx,hash,-,-,-,he⟩ := h
  have he := threeSends_of_event he
  have hlt : n < 15 := (List.getElem?_eq_some_iff.mp he).1
  interval_cases n <;> simp [threeSends] at he ⊢

theorem threeSendsRun_countsBroadcasts : CountsBroadcasts threeSendsRun := by
  intro n m i j nonce pending c d hnm hb hread hc hd hsame
  have hsent := threeSends_sent hb
  obtain ⟨b,tx,hash,hbcall,hphase,hnonce,-⟩ := hb
  obtain ⟨r,hrn,hcounted⟩ := nonce_counted hbcall hphase (by rw [Turn.nonce,hnonce])
  rcases threeSends_count hread with ⟨hm,-⟩ | ⟨hm,hpending⟩
  · omega
  · rcases threeSends_count hcounted with ⟨-,hseven⟩ | ⟨hr,-⟩
    · omega
    · omega

theorem send_queue_fair_three :
    (Mutex threeSendsRun ∧ Once threeSendsRun ∧ NoncesDistinct threeSendsRun) ∧
    (threeSendsRun.state 15).calls.map Call.phase =
      [.settled (.error "timeout"),.settled (.ok "0x01"),.settled (.ok "0x02")] := by
  obtain ⟨hmutex,honce,hdistinct⟩ := send_queue_fair threeSendsRun
  exact ⟨⟨hmutex,honce threeSendsRun_fair,hdistinct threeSendsRun_countsBroadcasts⟩,
    by decide +kernel⟩

end Prototype

end BelLedger.SendQueue
