import Pmilter.Milter.Engine

/-!
# The filter's data changes only through its callbacks

`mi_engine` hands the filter its context and never touches what the filter keeps there
(`smfi_setpriv`): that data changes only inside the filter's callbacks.  Along every run of the
engine, the filter's data after the run is what the callbacks the run reports make of the data
before it, called one after the other in the order the events name them, each with some
arguments.

* `SmfiDesc.Invokes` : one call of one callback, with some arguments;
* `SmfiDesc.Delivers` : the calls of a list of callbacks, in order;
* `engine_step_delivers`, `engine_run_delivers` : every step, and every run, of the engine
  delivers to the filter exactly the callbacks its events name.
-/

namespace Pmilter

namespace Milter

variable {σ : Type}

/-! ### The callbacks among the events -/

/-- The callback an event calls, if it is a call. -/
def Event.callback : Event → Option Cb
  | .call cb => some cb
  | .reply _ => none

/-- The callbacks the events call, in order. -/
def Event.calls (ev : List Event) : List Cb := ev.filterMap Event.callback

@[simp] theorem Event.calls_nil : Event.calls [] = [] := rfl

@[simp] theorem Event.calls_call_cons (cb : Cb) (ev : List Event) :
    Event.calls (.call cb :: ev) = cb :: Event.calls ev := rfl

@[simp] theorem Event.calls_reply_cons (r : Reply) (ev : List Event) :
    Event.calls (.reply r :: ev) = Event.calls ev := rfl

@[simp] theorem Event.calls_append (ev ev' : List Event) :
    Event.calls (ev ++ ev') = Event.calls ev ++ Event.calls ev' :=
  List.filterMap_append

/-- A reply `sendreply` sends is not a call. -/
@[simp] theorem Event.calls_reply (o : Option Reply) :
    Event.calls (o.map Event.reply).toList = [] := by
  cases o <;> rfl

theorem Event.mem_calls {cb : Cb} {ev : List Event} : cb ∈ Event.calls ev ↔ .call cb ∈ ev := by
  induction ev with
  | nil => simp
  | cons e ev ih => cases e <;> simp [ih]

/-! ### Calls of the callbacks -/

namespace SmfiDesc

/-- One call of the callback `cb` of `f`, with some arguments, takes the filter's data from `w`
to `w'`. -/
inductive Invokes (f : SmfiDesc σ) : Cb → σ → σ → Prop
  | connect {g} (w : σ) (hostname : String) (hostaddr : Option SockAddr) :
      f.connect = some g → f.Invokes .connect w (g w hostname hostaddr).1
  | helo {g} (w : σ) (helohost : String) : f.helo = some g → f.Invokes .helo w (g w helohost).1
  | envfrom {g} (w : σ) (argv : List String) :
      f.envfrom = some g → f.Invokes .envfrom w (g w argv).1
  | envrcpt {g} (w : σ) (argv : List String) :
      f.envrcpt = some g → f.Invokes .envrcpt w (g w argv).1
  | header {g} (w : σ) (headerf headerv : String) :
      f.header = some g → f.Invokes .header w (g w headerf headerv).1
  | eoh {g} (w : σ) : f.eoh = some g → f.Invokes .eoh w (g w).1
  | body {g} (w : σ) (bodyp : List Char) : f.body = some g → f.Invokes .body w (g w bodyp).1
  | eom {g} (w : σ) : f.eom = some g → f.Invokes .eom w (g w).1
  | abort {g} (w : σ) : f.abort = some g → f.Invokes .abort w (g w).1
  | close {g} (w : σ) : f.close = some g → f.Invokes .close w (g w).1
  | unknown {g} (w : σ) (scmd : String) : f.unknown = some g → f.Invokes .unknown w (g w scmd).1
  | data {g} (w : σ) : f.data = some g → f.Invokes .data w (g w).1
  | negotiate {g} (w : σ) (f0 f1 pf0 pf1 : Nat) :
      f.negotiate = some g → f.Invokes .negotiate w (g w f0 f1 pf0 pf1).1

/-- The calls of the callbacks `cbs`, one after the other, take the filter's data from `w` to
`w'`. -/
inductive Delivers (f : SmfiDesc σ) : σ → List Cb → σ → Prop
  | nil (w : σ) : f.Delivers w [] w
  | cons {w w₁ w₂ : σ} {cb : Cb} {cbs : List Cb} :
      f.Invokes cb w w₁ → f.Delivers w₁ cbs w₂ → f.Delivers w (cb :: cbs) w₂

variable {f : SmfiDesc σ} {w w₁ w₂ : σ} {cb : Cb} {cbs cbs' : List Cb}

theorem Delivers.single (h : f.Invokes cb w w₁) : f.Delivers w [cb] w₁ := .cons h (.nil w₁)

theorem Delivers.append (h : f.Delivers w cbs w₁) (h' : f.Delivers w₁ cbs' w₂) :
    f.Delivers w (cbs ++ cbs') w₂ := by
  induction h with
  | nil => exact h'
  | cons hi _ ih => exact .cons hi (ih h')

end SmfiDesc

open SmfiDesc

/-! ### What the engine's functions deliver -/

section Engine

variable {sys : Sys} {f : SmfiDesc σ}

/-- `callOpt` calls the callback it names when the filter has one. -/
theorem callOpt_delivers {cb : Cb} {fn : Option (σ → σ × Int32)}
    (hfn : ∀ g, fn = some g → ∀ w, f.Invokes cb w (g w).1) (w : σ) :
    f.Delivers w (Event.calls (callOpt cb fn w).2.2) (callOpt cb fn w).1 := by
  unfold callOpt
  split
  · exact .single (hfn _ rfl w)
  · exact .nil w

/-- The optional `callOpt` of `mi_engine`'s end and of a wrong transition. -/
theorem callOptIf_delivers (b : Bool) {cb : Cb} {fn : Option (σ → σ × Int32)}
    (hfn : ∀ g, fn = some g → ∀ w, f.Invokes cb w (g w).1) (w : σ) :
    f.Delivers w (Event.calls (if b = true then callOpt cb fn w else (w, 0, [])).2.2)
      (if b = true then callOpt cb fn w else (w, 0, [])).1 := by
  split
  · exact callOpt_delivers hfn w
  · exact .nil w

/-- `optionnegFinish` changes only the context and the table. -/
theorem optionnegFinish_delivers {e : Engine σ} {w : σ} {ev : List Event}
    (h : f.Delivers w (Event.calls ev) e.filt) :
    f.Delivers w (Event.calls (optionnegFinish e ev).2.2) (optionnegFinish e ev).1.filt := by
  unfold optionnegFinish
  dsimp only
  split_ifs <;> exact h

theorem stOptionneg_delivers (e : Engine σ) (buf : List Char) :
    f.Delivers e.filt (Event.calls (stOptionneg f e buf).2.2) (stOptionneg f e buf).1.filt := by
  unfold stOptionneg
  split
  · exact .nil _
  split
  · exact .nil _
  extract_lets
  cases hg : f.negotiate with
  | none => exact optionnegFinish_delivers (.nil _)
  | some g =>
    dsimp only
    split
    · -- the filter's data after `xxfi_negotiate` is the first of its results, whatever it answers
      split_ifs
      · exact optionnegFinish_delivers (.single (.negotiate _ _ _ _ _ hg))
      · exact .single (.negotiate _ _ _ _ _ hg)
      · exact optionnegFinish_delivers (.single (.negotiate _ _ _ _ _ hg))
    · exact optionnegFinish_delivers (.nil _)

/-- **The `st_*` function of a command changes the filter's data only by the callbacks it
reports.** -/
theorem stFct_delivers (c : Cmd) (e : Engine σ) (buf : List Char) :
    f.Delivers e.filt (Event.calls (stFct sys f c e buf).2.2) (stFct sys f c e buf).1.filt := by
  cases c
  case optneg => exact stOptionneg_delivers e buf
  all_goals
    simp only [stFct, stAbortfct, stMacros, stBodychunk, stConnectinfo, stBodyend, stHelo,
      stHeader, stSender, stRcpt, argvFct, stUnknown, stData, stEoh, stQuit, callOpt]
    repeat' split
  all_goals
    simp only [Event.calls_nil, Event.calls_call_cons, Event.calls_append, Event.calls_reply,
      List.nil_append, List.cons_append]
    first
    | exact .nil _
    | exact .single (by constructor <;> assumption)
    -- `st_bodyend`: the last chunk, then the end of the message
    | exact .cons (.body _ _ ‹_›) (.single (.eom _ ‹_›))

/-- The end of `mi_engine`: the optional `xxfi_abort`, then the optional `xxfi_close` on what the
abort left. -/
theorem miEngineEnd_delivers (e : Engine σ) (ret : Int32) (ca : Bool) :
    f.Delivers e.filt (Event.calls (miEngineEnd f e ret ca).2) (miEngineEnd f e ret ca).1.filt := by
  unfold miEngineEnd
  dsimp only
  rw [Event.calls_append]
  exact (callOptIf_delivers _ (fun _ hg w => .abort w hg) _).append
    (callOptIf_delivers _ (fun _ hg w => .close w hg) _)

/-- A turn of the loop on an accepted command: the command's `st_*` function, its reply, and the
end of the session if the command ends it. -/
theorem miEngineRun_delivers (e : Engine σ) (cf : CmdFct) (buf : List Char) :
    f.Delivers e.filt (Event.calls (miEngineRun sys f e cf buf).2)
      (miEngineRun sys f e cf buf).1.filt := by
  unfold miEngineRun
  extract_lets ctx₀ e₁ callAbort
  have he₁ : e₁.filt = e.filt := by
    simp only [e₁]
    split <;> rfl
  have hst := he₁ ▸ @stFct_delivers σ sys f cf.cmd e₁ buf
  rcases hsf : stFct sys f cf.cmd e₁ buf with ⟨e₂, r, ev⟩
  rw [hsf] at hst
  dsimp only at hst ⊢
  -- the reply and the move of the state leave the filter's data alone; the end of the session,
  -- when the command brings it, calls after the command's callbacks
  have hend : ∀ (e' : Engine σ) (ret : Int32), e'.filt = e₂.filt →
      f.Delivers e.filt (Event.calls (ev ++ ((sendreply r e₂.ctx).2.map Event.reply).toList ++
        (miEngineEnd f e' ret callAbort).2)) (miEngineEnd f e' ret callAbort).1.filt := by
    intro e' ret h
    simp only [Event.calls_append, Event.calls_reply, List.append_nil]
    exact hst.append (h ▸ miEngineEnd_delivers e' ret callAbort)
  split
  · exact hend _ _ (by split_ifs <;> rfl)
  split
  · exact hend _ _ (by split_ifs <;> rfl)
  · simp only [Event.calls_append, Event.calls_reply, List.append_nil]
    split_ifs <;> exact hst

/-- A turn of the loop on a command read from the MTA, a wrong transition included. -/
theorem miEngineCmd_delivers (e : Engine σ) (c : Char) (buf : List Char) :
    f.Delivers e.filt (Event.calls (miEngineCmd sys f e c buf).2)
      (miEngineCmd sys f e c buf).1.filt := by
  unfold miEngineCmd
  split
  · exact miEngineEnd_delivers _ _ _
  rename_i cf _
  split
  · exact miEngineRun_delivers _ _ _
  split
  · exact miEngineRun_delivers _ _ _
  -- the wrong transition first aborts the transaction, then runs or ends the command
  have habort := callOptIf_delivers e.cur.inMail (fun _ hg w => @Invokes.abort σ f _ w hg) e.filt
  dsimp only
  split
  · simp only [Event.calls_append]
    exact habort.append (miEngineRun_delivers { e with filt := _, cur := .helo } cf buf)
  split
  · simp only [Event.calls_append]
    exact habort.append (miEngineEnd_delivers { e with filt := _, cur := .helo } _ _)
  · exact habort

/-- **A step of the engine changes the filter's data only by the callbacks it reports.** -/
theorem engine_step_delivers (e : Engine σ) (i : Input) :
    f.Delivers e.filt (Event.calls ((engine sys f).step e i).2)
      ((engine sys f).step e i).1.filt := by
  simp only [engine]
  split
  · exact .nil _
  cases i with
  | packet c buf => exact miEngineCmd_delivers { e with waiting := false } c buf
  | readError => exact miEngineEnd_delivers e _ _
  | notReady => exact .nil _
  | idleTimeout =>
    dsimp only
    split
    · exact callOpt_delivers (fun _ hg w => .close w hg) e.filt
    · exact .nil _

/-- **Every run of the engine delivers to the filter exactly the callbacks its events name**: the
filter's data after the run is what those callbacks, called in that order, make of the data
before it. -/
theorem engine_run_delivers (e : Engine σ) (is : List Input) :
    f.Delivers e.filt (Event.calls ((engine sys f).run e is).2)
      ((engine sys f).run e is).1.filt := by
  -- the history rule of `Mealy`, with the delivery so far as the relation
  have h := @Mealy.run_history _ _ _ (engine sys f) (fun _ => True)
    (fun s out => f.Delivers e.filt (Event.calls out) s.filt) (fun _ _ _ => trivial)
    (fun s out i _ hd => by
      rw [Event.calls_append]
      exact hd.append (engine_step_delivers s i))
    e trivial [] (.nil e.filt) is
  simpa using h

end Engine

end Milter

end Pmilter
