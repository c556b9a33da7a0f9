import PlugAndPlay.Planificador.SuspensionesPasos

/-!
# Suspensions in every run

What the protocol of a process says about its history, and the situations about the threads: a process is suspended
once in a BLOCK and comes back before the next one; while it is dumped nobody takes it out of BLOCK; what STDIN reads
is written once and in RAM; no process in SUSP_READY is forgotten.
-/

open PlugAndPlay.Library

namespace PlugAndPlay.Planificador

/-! ## Histories of the protocol -/

namespace Paso

def esSuspender : Paso → Bool
  | .suspender => true
  | _ => false

def esSuspendido : Paso → Bool
  | .suspendido => true
  | _ => false

def esDesSuspendido : Paso → Bool
  | .desSuspendido => true
  | _ => false

def esEscritura : Paso → Bool
  | .escritura _ => true
  | _ => false

def esEscrita : Paso → Bool
  | .escrita => true
  | _ => false

def esNoEscrita : Paso → Bool
  | .noEscrita => true
  | _ => false

/-- What a STDIN has read. -/
def leido : Paso → List StdinPendiente
  | .finIo req datos => (porEscribir req datos).toList
  | _ => []

def escrito : Paso → List StdinPendiente
  | .escritura pendiente => [pendiente]
  | _ => []

end Paso

namespace Protocolo

variable {a a' a'' : Protocolo} {historia : List Paso} {paso : Paso}

/-- What the IO leaves that is not written yet. -/
def esperando (a : Protocolo) : List StdinPendiente :=
  match a.io with
  | .terminada resto => resto.toList
  | _ => []

/-- Whether a request to suspend is open, and whether the segments are out of RAM. -/
def volcandose (a : Protocolo) : ℕ := if a.lugar = .volcando then 1 else 0

def fueraDeRam (a : Protocolo) : ℕ := if a.lugar = .enRam then 0 else 1

/-- The protocol of a process after a history of it. -/
def Tras (historia : List Paso) (a : Protocolo) : Prop := Traces.follow avanza inicio historia = some a

/-- What the protocol does, one constructor for each kind of step. -/
inductive Avance : Protocolo → Paso → Protocolo → Prop
  | entra {req : IoRequest} {suspendido : Bool} :
      Avance ⟨.activo, .enRam, suspendido⟩ (.entra req) ⟨.pendiente req, .enRam, false⟩
  | finIo {req : IoRequest} {datos : List UInt8} {lugar : LugarMemoria} {suspendido : Bool} :
      Avance ⟨.pendiente req, lugar, suspendido⟩ (.finIo req datos) ⟨.terminada (porEscribir req datos), lugar, suspendido⟩
  | suspenderPendiente {req : IoRequest} :
      Avance ⟨.pendiente req, .enRam, false⟩ .suspender ⟨.pendiente req, .volcando, true⟩
  | suspenderTerminada {resto : Option StdinPendiente} :
      Avance ⟨.terminada resto, .enRam, false⟩ .suspender ⟨.terminada resto, .volcando, true⟩
  | suspendido {io : FaseIo} {suspendido : Bool} :
      Avance ⟨io, .volcando, suspendido⟩ .suspendido ⟨io, .enSwap, suspendido⟩
  | desSuspender {resto : Option StdinPendiente} {suspendido : Bool} :
      Avance ⟨.terminada resto, .enSwap, suspendido⟩ .desSuspender ⟨.terminada resto, .restaurando, suspendido⟩
  | desSuspendido {io : FaseIo} {suspendido : Bool} :
      Avance ⟨io, .restaurando, suspendido⟩ .desSuspendido ⟨io, .enRam, suspendido⟩
  | noDesSuspendido {io : FaseIo} {suspendido : Bool} :
      Avance ⟨io, .restaurando, suspendido⟩ .noDesSuspendido ⟨io, .enSwap, suspendido⟩
  | escritura {pendiente : StdinPendiente} {suspendido : Bool} :
      Avance ⟨.terminada (some pendiente), .enRam, suspendido⟩ (.escritura pendiente) ⟨.escribiendo, .enRam, suspendido⟩
  | escrita {suspendido : Bool} :
      Avance ⟨.escribiendo, .enRam, suspendido⟩ .escrita ⟨.terminada none, .enRam, suspendido⟩
  | noEscrita {suspendido : Bool} :
      Avance ⟨.escribiendo, .enRam, suspendido⟩ .noEscrita ⟨.rechazada, .enRam, suspendido⟩
  | aReady {suspendido : Bool} : Avance ⟨.terminada none, .enRam, suspendido⟩ .aReady inicio
  | terminar {suspendido : Bool} : Avance ⟨.activo, .enRam, suspendido⟩ .finalizado ⟨.finalizado, .enRam, suspendido⟩
  | finalizado {suspendido : Bool} :
      Avance ⟨.rechazada, .enRam, suspendido⟩ .finalizado ⟨.finalizado, .enRam, suspendido⟩

theorem avance_of_avanza (h : a.avanza paso = some a') : Avance a paso a' := by
  unfold avanza at h
  split at h
  all_goals try split at h
  all_goals cases h
  all_goals subst_vars
  all_goals constructor

theorem avanza_leido (h : a.avanza paso = some a') : a.esperando ++ paso.leido = paso.escrito ++ a'.esperando := by
  cases avance_of_avanza h <;> simp [esperando, Paso.leido, Paso.escrito, inicio]

theorem avanza_volcandose (h : a.avanza paso = some a') :
    a.volcandose + (if paso.esSuspender then 1 else 0) = (if paso.esSuspendido then 1 else 0) + a'.volcandose := by
  cases avance_of_avanza h <;> simp [volcandose, Paso.esSuspender, Paso.esSuspendido, inicio]

theorem avanza_fueraDeRam (h : a.avanza paso = some a') :
    a.fueraDeRam + (if paso.esSuspender then 1 else 0) = (if paso.esDesSuspendido then 1 else 0) + a'.fueraDeRam := by
  cases avance_of_avanza h <;> simp [fueraDeRam, Paso.esSuspender, Paso.esDesSuspendido, inicio]

def escribiendose (a : Protocolo) : ℕ := if a.io = .escribiendo then 1 else 0

theorem avanza_escribiendose (h : a.avanza paso = some a') :
    a.escribiendose + (if paso.esEscritura then 1 else 0) =
      (if paso.esEscrita || paso.esNoEscrita then 1 else 0) + a'.escribiendose := by
  cases avance_of_avanza h <;> simp [escribiendose, Paso.esEscritura, Paso.esEscrita, Paso.esNoEscrita, inicio]

/-- This BLOCK was suspended, or the process is in none. -/
def Usado (a : Protocolo) : Prop :=
  a.suspendido = true ∨ a.io = .activo ∨ a.io = .finalizado

theorem avanza_usado (h : a.avanza paso = some a') (ha : a.Usado) (hpaso : ∀ req, paso ≠ .entra req) : a'.Usado := by
  cases avance_of_avanza h with
  | entra => exact absurd rfl (hpaso _)
  | aReady => exact .inr (.inl rfl)
  | terminar | finalizado => exact .inr (.inr rfl)
  | suspenderPendiente | suspenderTerminada => exact .inl rfl
  | finIo | suspendido | desSuspender | desSuspendido | noDesSuspendido | escritura | escrita | noEscrita =>
    simp_all [Usado]

/-- Only a process in RAM whose BLOCK was not suspended yet is suspended. -/
theorem avanza_suspender (h : a.avanza .suspender = some a') :
    a.lugar = .enRam ∧ a'.lugar = .volcando ∧ ¬ a.Usado ∧ a'.Usado := by
  cases avance_of_avanza h <;> simp [Usado]

/-- Only a process in the swap is asked back. -/
theorem avanza_desSuspender (h : a.avanza .desSuspender = some a') : a.lugar = .enSwap := by
  cases avance_of_avanza h
  rfl

theorem avanza_escritura {pendiente : StdinPendiente} (h : a.avanza (.escritura pendiente) = some a') :
    a.lugar = .enRam := by
  cases avance_of_avanza h
  rfl

/-- Only a process in RAM that has nothing left to be written goes to READY. -/
theorem avanza_aReady (h : a.avanza .aReady = some a') : a.lugar = .enRam ∧ a.io = .terminada none := by
  cases avance_of_avanza h
  exact ⟨rfl, rfl⟩

theorem avanza_noEscrita (h : a.avanza .noEscrita = some a') : a'.io = .rechazada ∧ a'.lugar = .enRam := by
  cases avance_of_avanza h
  exact ⟨rfl, rfl⟩

theorem avanza_of_rechazada (h : a.avanza paso = some a') (ha : a.io = .rechazada) (hlugar : a.lugar = .enRam) :
    paso = .finalizado ∧ a'.io = .finalizado ∧ a'.lugar = .enRam := by
  cases avance_of_avanza h <;> simp_all

theorem not_avanza_of_finalizado (h : a.avanza paso = some a') (ha : a.io = .finalizado) (hlugar : a.lugar = .enRam) :
    False := by
  cases avance_of_avanza h <;> simp_all

/-- Every request to suspend but the open one is answered. -/
theorem Tras.suspendidos (h : Tras historia a) :
    historia.countP Paso.esSuspender = historia.countP Paso.esSuspendido + a.volcandose := by
  have hbalance := Traces.follow_balance (fun _ _ _ ↦ avanza_volcandose) h
  have hinicio : inicio.volcandose = 0 := rfl
  omega

/-- Every suspension but the present one is over. -/
theorem Tras.desSuspendidos (h : Tras historia a) :
    historia.countP Paso.esSuspender = historia.countP Paso.esDesSuspendido + a.fueraDeRam := by
  have hbalance := Traces.follow_balance (fun _ _ _ ↦ avanza_fueraDeRam) h
  have hinicio : inicio.fueraDeRam = 0 := rfl
  omega

/-- What was read is what was written and what still waits. -/
theorem Tras.leidos (h : Tras historia a) :
    historia.flatMap Paso.leido = historia.flatMap Paso.escrito ++ a.esperando :=
  Traces.follow_queue (fun _ _ _ ↦ avanza_leido) h

theorem Tras.escrituras (h : Tras historia a) :
    historia.countP Paso.esEscritura =
      historia.countP (fun paso ↦ paso.esEscrita || paso.esNoEscrita) + a.escribiendose := by
  have hbalance := Traces.follow_balance (fun _ _ _ ↦ avanza_escribiendose) h
  have hinicio : inicio.escribiendose = 0 := rfl
  omega

/-- Between two suspensions the process comes back once and enters BLOCK again. -/
theorem Tras.entre_suspensiones {medio resto : List Paso}
    (h : Tras (historia ++ .suspender :: (medio ++ .suspender :: resto)) a) (hmedio : .suspender ∉ medio) :
    (∃ req, .entra req ∈ medio) ∧ medio.countP Paso.esDesSuspendido = 1 := by
  obtain ⟨antes, primera, _, hprimera, hrestante⟩ := Traces.follow_middle h
  obtain ⟨despues, segunda, hmitad, hsegunda, _⟩ := Traces.follow_middle hrestante
  obtain ⟨-, hvolcando, -, husado⟩ := avanza_suspender hprimera
  obtain ⟨henRam, -, hsinUsar, -⟩ := avanza_suspender hsegunda
  refine ⟨?_, ?_⟩
  · by_contra hno
    push Not at hno
    refine hsinUsar (Traces.follow_invariant (P := Usado) ?_ hmitad husado)
    intro uno paso otro hpaso huno havanza
    apply avanza_usado havanza huno
    intro req heq
    rw [heq] at hpaso
    exact hno req hpaso
  · have hbalance := Traces.follow_balance (fun _ _ _ ↦ avanza_fueraDeRam) hmitad
    have hninguna : medio.countP Paso.esSuspender = 0 := by
      apply List.countP_eq_zero.mpr
      intro paso hpaso hes
      cases paso with
      | suspender => exact hmedio hpaso
      | entra | finIo | suspendido | desSuspender | desSuspendido | noDesSuspendido | escritura | escrita
        | noEscrita | aReady | finalizado => cases hes
    have hantes : primera.fueraDeRam = 1 := by simp [fueraDeRam, hvolcando]
    have hdespues : despues.fueraDeRam = 0 := by simp [fueraDeRam, henRam]
    omega

/-- A process is asked back once the last request to suspend it is answered. -/
theorem Tras.desSuspender {resto : List Paso} (h : Tras (historia ++ .desSuspender :: resto) a) :
    historia.countP Paso.esSuspendido = historia.countP Paso.esSuspender ∧
      historia.countP Paso.esSuspendido = historia.countP Paso.esDesSuspendido + 1 := by
  obtain ⟨antes, despues, hantes, hpaso, -⟩ := Traces.follow_middle h
  have henSwap := avanza_desSuspender hpaso
  have hsuspendidos := Tras.suspendidos hantes
  have hdesSuspendidos := Tras.desSuspendidos hantes
  have hvolcandose : antes.volcandose = 0 := by simp [volcandose, henSwap]
  have hfuera : antes.fueraDeRam = 1 := by simp [fueraDeRam, henSwap]
  omega

/-- A write is sent, and READY comes, with every suspension over. -/
theorem Tras.en_ram {resto : List Paso} (h : Tras (historia ++ paso :: resto) a)
    (hpaso : paso = .aReady ∨ ∃ pendiente, paso = .escritura pendiente) :
    historia.countP Paso.esSuspender = historia.countP Paso.esDesSuspendido := by
  obtain ⟨antes, despues, hantes, havanza, -⟩ := Traces.follow_middle h
  have hlugar : antes.lugar = .enRam := by
    rcases hpaso with rfl | ⟨pendiente, rfl⟩
    · exact (avanza_aReady havanza).1
    · exact avanza_escritura havanza
  have hdesSuspendidos := Tras.desSuspendidos hantes
  have hfuera : antes.fueraDeRam = 0 := by simp [fueraDeRam, hlugar]
  omega

/-- After a write that was refused nothing comes but the end. -/
theorem Tras.noEscrita {resto : List Paso} (h : Tras (historia ++ .noEscrita :: resto) a) :
    resto = [] ∨ resto = [.finalizado] := by
  obtain ⟨antes, despues, -, hpaso, hresto⟩ := Traces.follow_middle h
  obtain ⟨hrechazada, hlugar⟩ := avanza_noEscrita hpaso
  cases resto with
  | nil => exact .inl rfl
  | cons primero otros =>
    obtain ⟨fin, hprimero, hotros⟩ := Traces.follow_cons hresto
    obtain ⟨rfl, hfinalizado, hlugar'⟩ := avanza_of_rechazada hprimero hrechazada hlugar
    cases otros with
    | nil => exact .inr rfl
    | cons segundo _ =>
      obtain ⟨_, hsegundo, -⟩ := Traces.follow_cons hotros
      exact (not_avanza_of_finalizado hsegundo hfinalizado hlugar').elim

/-- At READY all that was read is written, and every write was accepted. -/
theorem Tras.aReady {resto : List Paso} (h : Tras (historia ++ .aReady :: resto) a) :
    historia.flatMap Paso.leido = historia.flatMap Paso.escrito ∧
      historia.countP Paso.esEscritura = historia.countP Paso.esEscrita := by
  obtain ⟨antes, despues, hantes, havanza, -⟩ := Traces.follow_middle h
  have hio := (avanza_aReady havanza).2
  have hnunca : .noEscrita ∉ historia := by
    intro hmem
    obtain ⟨previa, otros, rfl⟩ := List.append_of_mem hmem
    rw [List.append_assoc, List.cons_append] at h
    rcases Tras.noEscrita h with hnada | hfin
    · simp at hnada
    · have hlargo := congrArg List.length hfin
      simp only [List.length_append, List.length_cons, List.length_nil] at hlargo
      obtain rfl : otros = [] := List.eq_nil_of_length_eq_zero (by omega)
      simp at hfin
  constructor
  · rw [Tras.leidos hantes]
    simp [esperando, hio]
  · have hescrituras := Tras.escrituras hantes
    have hescribiendose : antes.escribiendose = 0 := by simp [escribiendose, hio]
    rw [hescrituras, hescribiendose, Nat.add_zero]
    apply List.countP_congr
    intro paso hpaso
    have hno : paso.esNoEscrita = false := by
      cases paso with
      | noEscrita => exact absurd hpaso hnunca
      | entra | finIo | suspender | suspendido | desSuspender | desSuspendido | noDesSuspendido | escritura | escrita
        | aReady | finalizado => rfl
    rw [hno, Bool.or_false]

end Protocolo

namespace Suspensiones

open Protocolo

variable {s s' : Suspensiones} {permitido : Suspensiones → SucesoSuspension → Prop}

theorem tras_of_reachable (h : Reachable paso Inicial permitido s) (pid : Pid) :
    ∃ a, Tras (s.historia pid) a ∧ Situacion (s.vista pid) a :=
  inv_of_reachable h pid

/-- No process has asked for an IO yet. -/
def sinIo : Suspensiones where
  suspensionTimeout := 1000
  pcbs _ := ⟨1, .exec, 0, 0, 1, none, false, 0, none⟩
  fases _ := .planificado
  colaProcesosBlock := []
  listaSuspendidos := []
  timers := []
  esperas := []
  avisos := 0
  semReevaluarSuspendidos := 0
  pmp := .espera
  entradas _ := 0
  historia _ := []

theorem inicial_sinIo : sinIo.Inicial where
  estados _ := ⟨Estado.noConfusion, Estado.noConfusion⟩
  pendientes _ := rfl
  epocas _ := rfl
  fases _ := rfl
  colas := ⟨rfl, rfl⟩
  hilos := ⟨rfl, rfl, rfl⟩
  avisos := rfl
  entradas _ := rfl
  historia _ := rfl

/-- The IO of a process ends while it is dumped, and the process becomes SUSP_READY. -/
def suspendida (req : IoRequest) (timer : ℕ) : List SucesoSuspension :=
  [.pedirIo req, .hilo req.proceso [] false, .hilo req.proceso [] false, .hilo req.proceso [] false, .timer timer,
    .timer timer, .timer timer, .hilo req.proceso [65, 66] false, .timer timer, .timer timer,
    .hilo req.proceso [] false, .hilo req.proceso [] false]

/-- A SLEEP and a STDIN, both of them suspended; the first try to bring the process back from the STDIN is refused. -/
def dosSuspensiones : List SucesoSuspension :=
  suspendida ⟨1, .sleep, 0, 0⟩ 0 ++ [.avisar, .pmp [1] false, .pmp [] false, .pmp [] true, .pmp [] false,
    .pmp [] false, .pmp [] false, .pmp [] false] ++
  suspendida ⟨1, .stdin, 8, 2⟩ 1 ++ [.hilo 1 [] false, .avisar, .pmp [1] false, .pmp [] false, .pmp [] false,
    .pmp [] false, .notificar, .pmp [1] false, .pmp [] false, .pmp [] true, .pmp [] false, .pmp [] false,
    .pmp [] true, .pmp [] false]

/-- The segments of a process that is neither in SUSP_BLOCK nor in SUSP_READY are in RAM. -/
theorem Situacion.enRam {v : Vista} {a : Protocolo} (h : Situacion v a) (hblock : v.pcb.estado ≠ .suspBlock)
    (hready : v.pcb.estado ≠ .suspReady) : a.lugar = .enRam ∧ v.enLista = 0 := by
  cases h with
  | planificado | pedir | enRam | fuera => exact ⟨rfl, rfl⟩
  | enBlock _ hvolcado => exact hvolcado.sinMarcar hblock
  | extraida hestado | diferida hestado => exact absurd hestado hblock
  | suspReady hestado => exact absurd hestado hready

/-- In every run: between two requests to suspend a process it enters BLOCK and comes back exactly once; it is asked
back only when the last request to suspend it is answered; and unless it is in SUSP_BLOCK or SUSP_READY every
suspension is over. -/
theorem suspensiones_en_orden (h : Reachable paso Inicial (fun _ _ ↦ True) s) (pid : Pid) :
    (∀ previa medio resto, s.historia pid = previa ++ .suspender :: (medio ++ .suspender :: resto) →
      .suspender ∉ medio → (∃ req, .entra req ∈ medio) ∧ medio.countP Paso.esDesSuspendido = 1) ∧
    (∀ previa resto, s.historia pid = previa ++ .desSuspender :: resto →
      previa.countP Paso.esSuspendido = previa.countP Paso.esSuspender ∧
        previa.countP Paso.esSuspendido = previa.countP Paso.esDesSuspendido + 1) ∧
    ((s.pcbs pid).estado ≠ .suspBlock → (s.pcbs pid).estado ≠ .suspReady →
      (s.historia pid).countP Paso.esSuspender = (s.historia pid).countP Paso.esDesSuspendido ∧
        pid ∉ s.listaSuspendidos) := by
  obtain ⟨a, htras, hsituacion⟩ := tras_of_reachable h pid
  refine ⟨?_, ?_, ?_⟩
  · intro previa medio resto hhistoria hmedio
    rw [hhistoria] at htras
    exact htras.entre_suspensiones hmedio
  · intro previa resto hhistoria
    rw [hhistoria] at htras
    exact htras.desSuspender
  · intro hblock hready
    obtain ⟨hlugar, hlista⟩ := Situacion.enRam hsituacion hblock hready
    have hdesSuspendidos := htras.desSuspendidos
    have hfuera : a.fueraDeRam = 0 := by simp [fueraDeRam, hlugar]
    refine ⟨by omega, ?_⟩
    intro hmem
    have hcuenta : 1 ≤ s.listaSuspendidos.count pid := List.one_le_count_iff.mpr hmem
    have hcero : s.listaSuspendidos.count pid = 0 := hlista
    omega

theorem suspensiones_en_orden_dos : ∃ s, Reachable paso Inicial (fun _ _ ↦ True) s ∧
    ∃ previa medio resto, s.historia 1 = previa ++ .suspender :: (medio ++ .suspender :: resto) ∧
      (∃ req, .entra req ∈ medio) ∧ medio.countP Paso.esDesSuspendido = 1 := by
  have hinicio : Reachable paso Inicial (fun _ _ ↦ True) sinIo := .start inicial_sinIo
  obtain ⟨s, hs, hhistoria⟩ := hinicio.exists_of_runAllowed dosSuspensiones
    (fun s ↦ s.historia 1 = [.entra ⟨1, .sleep, 0, 0⟩] ++ .suspender ::
      ([.finIo ⟨1, .sleep, 0, 0⟩ [65, 66], .suspendido, .desSuspender, .desSuspendido, .aReady,
        .entra ⟨1, .stdin, 8, 2⟩] ++ .suspender :: [.finIo ⟨1, .stdin, 8, 2⟩ [65, 66], .suspendido, .desSuspender,
          .noDesSuspendido, .desSuspender, .desSuspendido, .escritura ⟨8, [65, 66]⟩, .escrita, .aReady]))
    (by decide +kernel)
  exact ⟨s, hs, _, _, _, hhistoria, (suspensiones_en_orden hs 1).1 _ _ _ hhistoria (by decide)⟩

/-- In every run what STDIN reads for a process is written once, in order, and only while no suspension is open; at
READY all of it is written and every write was accepted; and a write that is refused is the last thing that happens
to its process. -/
theorem stdin_una_vez (h : Reachable paso Inicial (fun _ _ ↦ True) s) (pid : Pid) :
    (∃ espera, (s.historia pid).flatMap Paso.leido = (s.historia pid).flatMap Paso.escrito ++ espera ∧
      espera.length ≤ 1) ∧
    (∀ previa pendiente resto, s.historia pid = previa ++ .escritura pendiente :: resto →
      previa.countP Paso.esSuspender = previa.countP Paso.esDesSuspendido) ∧
    (∀ previa resto, s.historia pid = previa ++ .aReady :: resto →
      previa.flatMap Paso.leido = previa.flatMap Paso.escrito ∧
        previa.countP Paso.esEscritura = previa.countP Paso.esEscrita) ∧
    (∀ previa resto, s.historia pid = previa ++ .noEscrita :: resto → resto = [] ∨ resto = [.finalizado]) := by
  obtain ⟨a, htras, -⟩ := tras_of_reachable h pid
  refine ⟨⟨a.esperando, htras.leidos, ?_⟩, ?_, ?_, ?_⟩
  · obtain ⟨io, lugar, suspendido⟩ := a
    cases io with
    | terminada resto => cases resto <;> simp [esperando]
    | activo | pendiente | escribiendo | rechazada | finalizado => simp [esperando]
  · intro previa pendiente resto hhistoria
    rw [hhistoria] at htras
    exact htras.en_ram (.inr ⟨pendiente, rfl⟩)
  · intro previa resto hhistoria
    rw [hhistoria] at htras
    exact htras.aReady
  · intro previa resto hhistoria
    rw [hhistoria] at htras
    exact htras.noEscrita

theorem stdin_una_vez_diferida : ∃ s, Reachable paso Inicial (fun _ _ ↦ True) s ∧
    ∃ previa resto, s.historia 1 = previa ++ .aReady :: resto ∧ previa.flatMap Paso.leido = [⟨8, [65, 66]⟩] ∧
      previa.flatMap Paso.leido = previa.flatMap Paso.escrito ∧
      previa.countP Paso.esEscritura = previa.countP Paso.esEscrita := by
  have hinicio : Reachable paso Inicial (fun _ _ ↦ True) sinIo := .start inicial_sinIo
  obtain ⟨s, hs, hhistoria⟩ := hinicio.exists_of_runAllowed dosSuspensiones
    (fun s ↦ s.historia 1 = [.entra ⟨1, .sleep, 0, 0⟩, .suspender, .finIo ⟨1, .sleep, 0, 0⟩ [65, 66], .suspendido,
      .desSuspender, .desSuspendido, .aReady, .entra ⟨1, .stdin, 8, 2⟩, .suspender,
      .finIo ⟨1, .stdin, 8, 2⟩ [65, 66], .suspendido, .desSuspender, .noDesSuspendido, .desSuspender, .desSuspendido,
      .escritura ⟨8, [65, 66]⟩, .escrita] ++ .aReady :: [])
    (by decide +kernel)
  exact ⟨s, hs, _, _, hhistoria, by decide, (stdin_una_vez hs 1).2.2.1 _ _ hhistoria⟩

/-! ## Dumps -/

theorem exists_timer_of_mem_volcados {pid : Pid} {fase : FaseTimer} (h : fase ∈ (s.vista pid).volcados) :
    ∃ (i : ℕ) (t : HiloSuspension), s.timers[i]? = some t ∧ t.pid = pid ∧ t.fase.enVuelo := by
  obtain ⟨t, ht, -⟩ := List.mem_map.mp h
  obtain ⟨hmem, hpid⟩ := List.mem_filter.mp ht
  obtain ⟨i, hi⟩ := List.getElem?_of_mem hmem
  rw [Bool.and_eq_true] at hpid
  exact ⟨i, t, hi, of_decide_eq_true hpid.1, hpid.2⟩

/-- In every run, from the decision to suspend a process until the answer is seen: the process is in
`cola_procesos_block`, in SUSP_BLOCK, and no other timer is at it. A worker that waits for `suspendido_en_swap` waits
for such a timer, and it never misses its process. -/
theorem volcado_exclusivo (h : Reachable paso Inicial (fun _ _ ↦ True) s) :
    (∀ (i : ℕ) (t : HiloSuspension), s.timers[i]? = some t → t.fase.enVuelo →
      s.colaProcesosBlock.count t.pid = 1 ∧ (s.pcbs t.pid).estado = .suspBlock ∧
        (s.pcbs t.pid).suspendidoEnSwap = false ∧
        ∀ (j : ℕ) (u : HiloSuspension), s.timers[j]? = some u → u.pid = t.pid → u.fase.enVuelo → j = i) ∧
    (∀ pid ∈ s.colaProcesosBlock, (s.pcbs pid).estado = .suspBlock → (s.pcbs pid).suspendidoEnSwap = false →
      ∃ (i : ℕ) (t : HiloSuspension), s.timers[i]? = some t ∧ t.pid = pid ∧ t.fase.enVuelo) ∧
    (∀ pid, s.fases pid ≠ .perdida) := by
  have hinv := inv_of_reachable h
  refine ⟨?_, ?_, ?_⟩
  · intro i t ht henVuelo
    have hmem := mem_volcados ht henVuelo
    obtain ⟨io, lugar, suspendido, henCola⟩ := (hinv t.pid).enCola_of_volcado hmem
    obtain ⟨hestado, henSwap⟩ := henCola.volcado.marcado_of_mem hmem
    refine ⟨henCola.cuenta, hestado, henSwap, ?_⟩
    intro j u hu hpid huVuelo
    have hlargo : (s.timers.filter fun r ↦ r.pid = t.pid && r.fase.enVuelo).length ≤ 1 := by
      calc (s.timers.filter fun r ↦ r.pid = t.pid && r.fase.enVuelo).length
          = (s.vista t.pid).volcados.length := (List.length_map _).symm
        _ = t.fase.volcado.length := congrArg List.length (henCola.volcado.solo hmem)
        _ ≤ 1 := by cases t.fase <;> decide
    apply ListModify.eq_of_length_filter_le_one hlargo hu ht
    · simp [hpid, huVuelo]
    · simp [henVuelo]
  · intro pid hpid hestado henSwap
    obtain ⟨io, lugar, suspendido, henCola⟩ := (hinv pid).enCola (List.one_le_count_iff.mpr hpid)
    have hvolcado := henCola.volcado
    rw [show (s.vista pid).pcb.estado = .suspBlock from hestado,
      show (s.vista pid).pcb.suspendidoEnSwap = false from henSwap] at hvolcado
    obtain ⟨fase, hfase⟩ := hvolcado.exists_timer
    exact exists_timer_of_mem_volcados hfase
  · exact fun pid ↦ (hinv pid).not_perdida

/-- The IO is over, and the worker waits for the dump. -/
theorem volcado_exclusivo_esperado : ∃ s, Reachable paso Inicial (fun _ _ ↦ True) s ∧
    s.fases 1 = .terminada ⟨1, .sleep, 0, 0⟩ [65, 66] ∧
      ∃ (i : ℕ) (t : HiloSuspension), s.timers[i]? = some t ∧ t.pid = 1 ∧ t.fase.enVuelo := by
  have hinicio : Reachable paso Inicial (fun _ _ ↦ True) sinIo := .start inicial_sinIo
  obtain ⟨s, hs, hfase, hmem, hestado, henSwap⟩ := hinicio.exists_of_runAllowed
    ((suspendida ⟨1, .sleep, 0, 0⟩ 0).take 8)
    (fun s ↦ s.fases 1 = .terminada ⟨1, .sleep, 0, 0⟩ [65, 66] ∧ 1 ∈ s.colaProcesosBlock ∧
      (s.pcbs 1).estado = .suspBlock ∧ (s.pcbs 1).suspendidoEnSwap = false)
    (by decide +kernel)
  exact ⟨s, hs, hfase, (volcado_exclusivo hs).2.1 1 hmem hestado henSwap⟩

end Suspensiones

end PlugAndPlay.Planificador
