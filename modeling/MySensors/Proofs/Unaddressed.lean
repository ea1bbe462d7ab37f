import MySensors.Proofs.Signing

/-! A node without an id keeps quiet. `transportSendRoute` refuses every send while
`_nc.nodeId` is `AUTO` and asks for a parent or an id instead, and past it the transport writes
to the radio only the parent search's broadcast, the id request and a repeater's answer to a
parent search, which it gives only with an id. So every frame the node transmits while it has no
id, a frame stamped `last = AUTO`, is an `I_FIND_PARENT` or an `I_ID_REQUEST`, whatever it
receives and however deep the processing nests (`unaddressed_sends_only_requests`). The check of
`transportSendRoute` holds at the radio because an id, once the node has one, is kept by every
call that returns, the nonce wait's included. One pass over the entry points proves both. -/

namespace MySensors

open NodeM

/-- A frame the node may transmit whatever its id: stamped with an id, or a parent search or an
id request. -/
def Event.Addressed : Event → Prop
  | .radio _ m _ => m.last = AUTO → m.command = C_INTERNAL ∧ (m.type = I_FIND_PARENT ∨ m.type = I_ID_REQUEST)
  | _ => True

/-- The trace grew by such frames only. -/
def SendsAddressed (s s' : Node) : Prop := ∃ new, s'.trace = s.trace ++ new ∧ ∀ e ∈ new, e.Addressed

/-- A run that returns also keeps the id the node has. -/
structure SendsKeepId (s s' : Node) : Prop where
  sends : SendsAddressed s s'
  id : s.nc.nodeId ≠ AUTO → s'.nc.nodeId ≠ AUTO

namespace SendsAddressed

variable {s t u : Node}

theorem of_trace (h : t.trace = s.trace) : SendsAddressed s t :=
  ⟨[], by rw [h, List.append_nil], fun _ h => absurd h (List.not_mem_nil _)⟩

theorem trans (h : SendsAddressed s t) (h' : SendsAddressed t u) : SendsAddressed s u := by
  obtain ⟨n, hn, hw⟩ := h
  obtain ⟨n', hn', hw'⟩ := h'
  exact ⟨n ++ n', by rw [hn', hn, List.append_assoc], fun e he => (List.mem_append.1 he).elim (hw e) (hw' e)⟩

theorem append {e : Event} (h : t.trace = s.trace ++ [e]) (he : e.Addressed) : SendsAddressed s t :=
  ⟨[e], h, fun _ h' => (List.mem_singleton.1 h') ▸ he⟩

end SendsAddressed

instance : Chains SendsAddressed := ⟨fun _ => .of_trace rfl, SendsAddressed.trans⟩

instance : Chains SendsKeepId := ⟨fun _ => ⟨.of_trace rfl, id⟩, fun h h' => ⟨h.sends.trans h'.sends, h'.id ∘ h.id⟩⟩

instance : Below SendsKeepId SendsAddressed := ⟨SendsKeepId.sends⟩

/-- A computation that runs by `SendsKeepId` from every state in which the node has an id. -/
def RunsWithId {α : Type} (x : NodeM α) : Prop :=
  ∀ s : Node, s.nc.nodeId ≠ AUTO → (x s).Ends SendsKeepId SendsAddressed s

namespace RunsWithId

variable {α β : Type} {x y : NodeM α}

theorem of_runs (h : x.Runs SendsKeepId SendsAddressed) : RunsWithId x := fun s _ => h s

theorem pure (a : α) : RunsWithId (Pure.pure a : NodeM α) := fun s _ => Chains.refl s

/-- The id the first computation keeps is there for the rest. -/
theorem bind {f : α → NodeM β} (hx : RunsWithId x) (hf : ∀ a, RunsWithId (f a)) : RunsWithId (x >>= f) :=
  fun s hs => Runs.bind_at_of (hx s hs) fun a t ht => hf a t (ht.id hs)

theorem get_bind {f : Node → NodeM α} (hf : ∀ s, RunsWithId (f s)) : RunsWithId (get >>= f) :=
  fun s hs => hf s s hs

theorem ite {c : Prop} [Decidable c] (hx : RunsWithId x) (hy : RunsWithId y) : RunsWithId (if c then x else y) := by
  split <;> assumption

end RunsWithId

/-! ### Every entry point runs by `SendsKeepId` -/

section Pass

variable {cfg : Build} {k : Calls}

/-- A computation that writes neither the trace nor the id; the default proof is the one for a
state update that writes other fields. -/
theorem unaddr_frame {α : Type} {x : NodeM α}
    (h : ∀ s, (x s).node.trace = s.trace ∧ (x s).node.nc.nodeId = s.nc.nodeId := by
      intro; exact ⟨rfl, rfl⟩) :
    x.Runs SendsKeepId SendsAddressed :=
  Runs.of_keeps fun s => ⟨.of_trace (h s).1, fun hs => (h s).2 ▸ hs⟩

/-- A call of the sketch, the controller or the internal-message handler. -/
theorem unaddr_emit (f : Node → Event) (hf : ∀ s, (f s).Addressed := by intro; trivial) :
    (modify fun s => s.emit (f s) : NodeM Unit).Runs SendsKeepId SendsAddressed :=
  Runs.modify fun s => ⟨.append rfl (hf s), id⟩

/-- A state update that keeps the trace and the id, at the state it is made in. -/
theorem SendsKeepId.same {s t : Node} (h : t.trace = s.trace ∧ t.nc.nodeId = s.nc.nodeId := by
    exact ⟨rfl, rfl⟩) : SendsKeepId s t :=
  ⟨.of_trace h.1, fun hs => h.2 ▸ hs⟩

theorem unaddr_hwMillis : hwMillis.Runs SendsKeepId SendsAddressed := unaddr_frame

theorem unaddr_transportAvailable : transportAvailable.Runs SendsKeepId SendsAddressed := unaddr_frame

theorem unaddr_signerAnswer : signerAnswer.Runs SendsKeepId SendsAddressed := unaddr_frame

theorem unaddr_flashInitialize : flashInitialize.Runs SendsKeepId SendsAddressed := unaddr_frame

theorem unaddr_setBuf (b : Buf) (f : Node → MyMessage) :
    (modify fun s => s.setBuf b (f s) : NodeM Unit).Runs SendsKeepId SendsAddressed :=
  unaddr_frame fun _ => by cases b <;> exact ⟨rfl, rfl⟩

theorem unaddr_modifyBuf (b : Buf) (f : MyMessage → MyMessage) : (modifyBuf b f).Runs SendsKeepId SendsAddressed :=
  unaddr_setBuf b _

/-- A frame goes on the radio stamped with the id the node has: with an id it may be anything,
without one it has to be a request. -/
theorem unaddr_transportSendWrite (toAddr : UInt8) (b : Buf) (s : Node)
    (h : s.nc.nodeId = AUTO →
      (s.buf b).command = C_INTERNAL ∧ ((s.buf b).type = I_FIND_PARENT ∨ (s.buf b).type = I_ID_REQUEST)) :
    (transportSendWrite toAddr b s).Ends SendsKeepId SendsAddressed s := by
  rw [transportSendWrite_apply]
  exact ⟨.append rfl h, fun hs => by rwa [Node.sent_nc]⟩

theorem unaddr_sendWrite_of_id (toAddr : UInt8) (b : Buf) : RunsWithId (transportSendWrite toAddr b) :=
  fun s hs => unaddr_transportSendWrite toAddr b s fun h => absurd h hs

theorem unaddr_signerSignMsg : signerSignMsg.Runs SendsKeepId SendsAddressed :=
  unaddr_signerAnswer.bind fun _ => .ite (Runs.bind unaddr_frame fun _ => .pure _) ((Runs.pure _).bind fun _ => .pure _)

theorem unaddr_acceptFindParentResponse (sender : UInt8) :
    (modify (acceptFindParentResponse sender) : NodeM Unit).Runs SendsKeepId SendsAddressed :=
  unaddr_frame fun s => by dsimp only [modify_apply, Outcome.node_ret, acceptFindParentResponse]; split <;> exact ⟨rfl, rfl⟩

theorem unaddr_deliver : (deliver cfg).Runs SendsKeepId SendsAddressed := by
  intro s
  unfold deliver
  by_cases hg : cfg.gateway = true <;> by_cases hr : cfg.receive = true <;>
    simp only [hg, hr, if_true, if_false, bind_apply, modify_apply, pure_apply, Outcome.ret_bind, Outcome.ends_ret]
  · exact ⟨(SendsAddressed.append rfl (by trivial)).trans (.append rfl (by trivial)), id⟩
  all_goals first | exact ⟨.append rfl (by trivial), id⟩ | exact Chains.refl s

theorem unaddr_firmwareConfigResponse : (firmwareConfigResponse cfg).Runs SendsKeepId SendsAddressed :=
  .get_bind fun _ => .ite (Runs.bind unaddr_frame fun _ => unaddr_flashInitialize.bind fun _ => .ite unaddr_frame unaddr_frame)
    unaddr_deliver

theorem unaddr_firmwareResponse : (firmwareResponse cfg).Runs SendsKeepId SendsAddressed :=
  .get_bind fun _ => .ite (Runs.bind unaddr_frame fun _ => .get_bind fun _ =>
    .ite (Runs.bind unaddr_frame fun _ => .ite (Runs.bind unaddr_frame fun _ => Runs.bind .stop fun _ => unaddr_frame)
      unaddr_frame) unaddr_frame) (.pure _)

variable (hk : k.Runs SendsKeepId SendsAddressed)
include hk

theorem unaddr_wait (ms : UInt32) : (wait k ms).Runs SendsKeepId SendsAddressed :=
  unaddr_hwMillis.bind fun _ => hk.waitLoop _ _

theorem unaddr_waitLoop (enter ms : UInt32) : (waitLoop k enter ms).Runs SendsKeepId SendsAddressed :=
  unaddr_hwMillis.bind fun _ => .ite (hk.process.bind fun _ => hk.waitLoop _ _) (.pure _)

theorem unaddr_signLoop (enter : UInt32) : (signLoop cfg k enter).Runs SendsKeepId SendsAddressed :=
  unaddr_hwMillis.bind fun _ => .get_bind fun _ => .ite (hk.process.bind fun _ => hk.signLoop _) (.pure _)

theorem unaddr_afterSend (ok : Bool) : (afterSend cfg k ok).Runs SendsKeepId SendsAddressed :=
  .ite (Runs.bind unaddr_frame fun _ => .pure _)
    (Runs.bind unaddr_frame fun _ => .get_bind fun _ =>
      .ite (hk.findParentNode.bind fun _ => .pure _) ((Runs.pure _).bind fun _ => .pure _))

theorem unaddr_signRoute (b : Buf) : (signRoute cfg k b).Runs SendsKeepId SendsAddressed :=
  .get_bind fun _ => .ite
    (Runs.bind unaddr_frame fun _ => (hk.sendRoute _).bind fun _ => .ite
      (unaddr_hwMillis.bind fun _ => Runs.bind (unaddr_setBuf .msgSign _) fun _ => (hk.signLoop _).bind fun _ =>
        unaddr_hwMillis.bind fun _ => .ite (.pure _) (.get_bind fun _ =>
          .ite ((unaddr_setBuf _ _).bind fun _ => .pure _) (.pure _)))
      (.pure _))
    (.ite ((unaddr_modifyBuf _ _).bind fun _ => .pure _) ((Runs.pure _).bind fun _ => .pure _))

/-- The routing, from a node with an id: every branch that writes to the radio stamps it. -/
theorem unaddr_routeMessage (b : Buf) (last : UInt8) : RunsWithId (routeMessage cfg k b last) :=
  .get_bind fun _ => .ite ((unaddr_sendWrite_of_id _ _).bind fun _ => .of_runs (unaddr_afterSend hk _))
    (.ite ((RunsWithId.of_runs unaddr_frame).bind fun _ => (unaddr_sendWrite_of_id _ _).bind fun _ =>
        .of_runs (unaddr_afterSend hk _))
      (.ite (unaddr_sendWrite_of_id _ _) (.ite (unaddr_sendWrite_of_id _ _) (.ite (.pure _)
        ((unaddr_sendWrite_of_id _ _).bind fun _ => (RunsWithId.of_runs unaddr_frame).bind fun _ =>
          .of_runs (unaddr_afterSend hk _))))))

/-- A send refuses to route without an id; past the check, the nonce wait keeps the id. -/
theorem unaddr_transportSendRoute (b : Buf) : (transportSendRoute cfg k b).Runs SendsKeepId SendsAddressed :=
  Runs.get_bind_at fun s => by
    split
    · exact (hk.findParentNode.bind fun _ => .pure _) s
    split
    · exact (hk.requestNodeId.bind fun _ => .pure _) s
    next hid =>
      exact ((RunsWithId.of_runs (unaddr_modifyBuf _ _)).bind fun _ =>
        (RunsWithId.of_runs (.ite (unaddr_signRoute hk _) (.pure _))).bind fun _ =>
          .ite (unaddr_routeMessage hk _ _) (.pure _)) s hid

theorem unaddr_transportFindParentNode : (transportFindParentNode k).Runs SendsKeepId SendsAddressed :=
  .get_bind fun _ => .ite
    (fun _ => Runs.modify_bind_eq SendsKeepId.same fun t ht =>
      Runs.bind_at (unaddr_transportSendWrite _ _ t fun _ => by subst ht; exact ⟨rfl, .inl rfl⟩) fun _ =>
        (unaddr_wait hk _).bind fun _ => unaddr_frame)
    (.pure _)

theorem unaddr_transportRequestNodeId : (transportRequestNodeId k).Runs SendsKeepId SendsAddressed := fun _ =>
  Runs.modify_bind_eq SendsKeepId.same fun t ht => Runs.get_bind_ends <|
    Runs.bind_at (unaddr_transportSendWrite _ _ t fun _ => by subst ht; exact ⟨rfl, .inr rfl⟩) fun _ =>
      unaddr_wait hk _

theorem unaddr_present (sensor type : UInt8) : (present k sensor type).Runs SendsKeepId SendsAddressed :=
  Runs.bind unaddr_frame fun _ => (hk.sendRoute _).bind fun _ => .pure _

theorem unaddr_transportPresentNode : (transportPresentNode cfg k).Runs SendsKeepId SendsAddressed := by
  refine .get_bind fun _ => .ite (Runs.bind unaddr_frame fun _ => (hk.sendRoute _).bind fun _ => ?_) (.pure _)
  -- both ways past the optional wait continue with the presentation and the OTA request
  refine .ite ((unaddr_wait hk _).bind fun _ => ?_) ((Runs.pure _).bind fun _ => ?_) <;>
  exact (unaddr_present hk _ _).bind fun _ => Runs.bind unaddr_frame fun _ => (hk.sendRoute _).bind fun _ =>
    (unaddr_wait hk _).bind fun _ =>
      .ite (Runs.bind unaddr_frame fun _ => (hk.sendRoute _).bind fun _ => .pure _) (.pure _)

theorem unaddr_otaIdle : (otaIdle cfg k).Runs SendsKeepId SendsAddressed :=
  unaddr_hwMillis.bind fun _ => .get_bind fun _ => .ite
    (.ite unaddr_frame (Runs.bind unaddr_frame fun _ => (hk.sendRoute _).bind fun _ => .pure _)) (.pure _)

theorem unaddr_requestSigning (m : MyMessage) : (requestSigning cfg k m).Runs SendsKeepId SendsAddressed :=
  Runs.bind unaddr_frame fun _ => Runs.bind unaddr_frame fun _ =>
    .ite (Runs.bind unaddr_frame fun _ => (hk.sendRoute _).bind fun _ => .pure _) (.pure _)

/-- The id is written only over `AUTO`. -/
theorem unaddr_idResponse (m : MyMessage) : (idResponse k m).Runs SendsKeepId SendsAddressed :=
  Runs.get_bind_at fun s => by
    dsimp only
    split
    · next h =>
      exact Runs.modify_bind_at ⟨.of_trace rfl, fun h' => absurd h.2 h'⟩
        (.get_bind fun _ => .ite .stop (hk.presentNode.bind fun _ => unaddr_frame))
    · exact (unaddr_emit fun s => .internal s.msg) s

theorem unaddr_handle (m : MyMessage) : (handle cfg k m).Runs SendsKeepId SendsAddressed :=
  .ite (unaddr_acceptFindParentResponse _)
    (.ite (unaddr_signerAnswer.bind fun _ =>
      .ite (Runs.bind unaddr_frame fun _ => (hk.sendRoute _).bind fun _ => .pure _) (.pure _))
    (.ite (unaddr_requestSigning hk _)
    (.ite (unaddr_signerAnswer.bind fun _ => .ite (unaddr_signerSignMsg.bind fun _ => .ite unaddr_frame (.pure _)) (.pure _))
    (.ite (unaddr_idResponse hk _)
    (.ite unaddr_firmwareConfigResponse
    (.ite unaddr_firmwareResponse unaddr_deliver))))))

theorem unaddr_toSelf (m : MyMessage) : (toSelf cfg k m).Runs SendsKeepId SendsAddressed := by
  refine Runs.bind unaddr_frame fun _ => ?_
  -- both ways past the route update continue with the ack and the dispatch
  refine .ite ((unaddr_frame fun s => by dsimp only [modify_apply, Outcome.node_ret]; split <;> exact ⟨rfl, rfl⟩).bind
    fun _ => ?_) ((Runs.pure _).bind fun _ => ?_) <;>
  exact .ite (Runs.bind unaddr_frame fun _ => (hk.sendRoute _).bind fun _ =>
      (Runs.pure _).bind fun _ => unaddr_handle hk _)
    ((Runs.pure _).bind fun _ => unaddr_handle hk _)

theorem unaddr_discover (m : MyMessage) : (discover cfg k m).Runs SendsKeepId SendsAddressed :=
  unaddr_hwMillis.bind fun _ => (unaddr_wait hk _).bind fun _ => Runs.bind unaddr_frame fun _ =>
    (hk.sendRoute _).bind fun _ => .ite ((hk.sendRoute _).bind fun _ => .pure _) (.pure _)

/-- A repeater answers a parent search only with an id, which the search and the wait before
the answer keep. -/
theorem unaddr_relay (toAddr : UInt8) (m : MyMessage) : (relay k toAddr m).Runs SendsKeepId SendsAddressed := by
  refine Runs.get_bind_at fun s => ?_
  dsimp only
  split
  swap
  · exact Runs.pure _ s
  next hid =>
  refine RunsWithId.ite (.get_bind fun _ => .ite (.get_bind fun _ => ?_) (.pure _))
    (.of_runs (.get_bind fun _ => .ite ((hk.sendRoute _).bind fun _ => .pure _) (.pure _))) s hid
  -- both ways past the optional parent search continue with the answer
  refine .ite ((RunsWithId.of_runs hk.findParentNode).bind fun _ => ?_) ((RunsWithId.pure _).bind fun _ => ?_) <;>
  exact .get_bind fun _ => .ite ((RunsWithId.of_runs unaddr_hwMillis).bind fun _ =>
    (RunsWithId.of_runs (unaddr_wait hk _)).bind fun _ => (RunsWithId.of_runs unaddr_frame).bind fun _ =>
      (unaddr_sendWrite_of_id _ _).bind fun _ => .pure _) (.pure _)

theorem unaddr_dispatch (toAddr : UInt8) (m : MyMessage) : (dispatch cfg k toAddr m).Runs SendsKeepId SendsAddressed :=
  .get_bind fun _ => .ite (.pure _)
    (.ite (unaddr_toSelf hk _) (.ite (unaddr_discover hk _) (.ite (unaddr_relay hk _ _) (.pure _))))

theorem unaddr_transportProcess : (transportProcess cfg k).Runs SendsKeepId SendsAddressed :=
  unaddr_transportAvailable.bind fun
    | none => .ite (unaddr_otaIdle hk) (.pure _)
    | some (_, _) => Runs.bind unaddr_frame fun _ => .get_bind fun _ =>
      .ite (.ite (unaddr_signerAnswer.bind fun _ => .ite (unaddr_dispatch hk _ _) (.pure _)) (.pure _))
        (unaddr_dispatch hk _ _)

theorem Calls.Runs.unaddr_next : (k.next cfg).Runs SendsKeepId SendsAddressed :=
  ⟨unaddr_transportProcess hk, unaddr_transportSendRoute hk, unaddr_transportFindParentNode hk,
    unaddr_transportRequestNodeId hk, unaddr_transportPresentNode hk, unaddr_waitLoop hk, unaddr_signLoop hk⟩

end Pass

theorem unaddr_calls (cfg : Build) (n : Nat) : (calls cfg n).Runs SendsKeepId SendsAddressed :=
  runs_calls cfg (fun _ hk => Calls.Runs.unaddr_next hk) n

/-- Whatever arrives and however deep the processing nests, a frame the node transmits while it
has no id, one stamped `last = AUTO`, is an `I_FIND_PARENT` or an `I_ID_REQUEST`. -/
theorem unaddressed_sends_only_requests (cfg : Build) (n m : Nat) (s : Node) :
    ∃ new, (processTimes (calls cfg n) m s).node.trace = s.trace ++ new ∧
      ∀ hop f len, Event.radio hop f len ∈ new → f.last = AUTO →
        f.command = C_INTERNAL ∧ (f.type = I_FIND_PARENT ∨ f.type = I_ID_REQUEST) := by
  obtain ⟨new, h, hw⟩ := (runs_processTimes (unaddr_calls cfg n).process m).keeps s
  exact ⟨new, h, fun _ _ _ he => hw _ he⟩

end MySensors
