import PlugAndPlay.Cpu.Programas
import PlugAndPlay.Library.Traces
import PlugAndPlay.Memoria.ContextosCpu
import PlugAndPlay.Memoria.ProcesosConservan

/-!
# Runs of programs

Many processes on many CPUs, evicted after any instruction, compacted, suspended and resumed: each of them computes
what it computes alone, from its script and from what Kernel Memory does for it.
-/

open PlugAndPlay.Library PrivateMemory

namespace PlugAndPlay.Cpu

open Memoria
open Desalojo (partirEnBlancos)
open Red (Recepcion)

/-! ## A process alone with its script -/

/-- What Kernel Memory does for a process, or its next instruction with the result it had. -/
inductive PasoPropio
  | operacion (op : Op ℤ UInt32 UInt8)
  | instruccion (resultado : ResultadoExecute)

section Solo

variable [Recepcion] (stringSplit : String → String → List String) (segmentMaxSize : UInt32)

/-- The line at the program counter; a line out of range is empty. -/
def Maquina.siguiente (script : List String) (m : Maquina) : Option EfectoPropio :=
  (decodeInstruccion stringSplit (script[m.registros.pc.toNat]?.getD "")).bind (m.efecto segmentMaxSize)

def Maquina.paso (script : List String) (m : Maquina) : PasoPropio → Option Maquina
  | .operacion op => some { m with memoria := op.onRegions m.memoria }
  | .instruccion resultado =>
    (m.siguiente stringSplit segmentMaxSize script).bind fun e ↦
      if e.resultado = resultado then some e.maquina else none

end Solo

/-! ## All of them together -/

/-- The context of a process on its CPU, which goes on as long as the result is `CONTINUAR`. -/
structure EnCurso where
  contexto : Contexto
  sigue : Bool

/-- Kernel Memory with its devices, the context of each process that is on a CPU, and what every process has done
since it was created. -/
structure Computo where
  espejo : Espejo
  enCpu : ℤ → Option EnCurso
  historia : ℤ → List PasoPropio

/-- The scheduler has a process on one CPU at most. -/
inductive EventoComputo
  | pedido (op : Operacion)
  | obtenerContexto (pid : ℤ)
  | ejecutar (pid : ℤ) (sticks : List CpuStick)
  | actualizarContexto (pid : ℤ)

namespace Computo

section Paso

variable [Recepcion] (qsort : Qsort) (stringSplit : String → String → List String) (s : Computo)

def memoria : KernelMemory := s.espejo.corrida.memoria

def segmentMaxSize : UInt32 := s.memoria.config.segmentMaxSize.toUInt32

def espejoCon (m : KernelMemory) : Espejo :=
  { s.espejo with corrida := { s.espejo.corrida with memoria := m } }

def script (pid : ℤ) : List String := ((procesosBuscar s.memoria.procesos pid).map Proceso.instrucciones).getD []

/-- The process on its CPU, with its private memory. -/
def maquina (pid : ℤ) (c : EnCurso) : Maquina := ⟨c.contexto.registros, s.espejo.privadas pid⟩

def siguiente (pid : ℤ) (c : EnCurso) : Option EfectoPropio :=
  (s.maquina pid c).siguiente stringSplit s.segmentMaxSize (s.script pid)

/-- A request adds what it does for a process to the history of that process; a new one has none. -/
def historiaTras (op : Operacion) : ℤ → List PasoPropio :=
  match op with
  | .crearProceso pid _ => Function.update s.historia pid []
  | op => (s.espejo.efecto qsort (.pedido op)).elim s.historia fun propia ↦
    Function.update s.historia propia.owner (s.historia propia.owner ++ [.operacion propia])

/-- An instruction of a process on a CPU: the sticks and the registers as the CPU leaves them, the private memory
as the process alone does. -/
def trasInstruccion (pid : ℤ) (c : EnCurso) (efecto : Efecto) : Computo where
  espejo :=
    { corrida := s.espejo.corrida.conTabla efecto.tabla
      privadas := Function.update s.espejo.privadas pid
        (((s.siguiente stringSplit pid c).map EfectoPropio.memoria).getD (s.espejo.privadas pid)) }
  enCpu := Function.update s.enCpu pid
    (some ⟨{ c.contexto with registros := efecto.registros }, efecto.resultado = .continuar⟩)
  historia := Function.update s.historia pid (s.historia pid ++ [.instruccion efecto.resultado])

def paso : EventoComputo → Option Computo
  | .pedido op =>
    (s.espejo.paso qsort (.pedido op)).map fun espejo ↦
      { s with espejo := espejo, historia := s.historiaTras qsort op }
  | .obtenerContexto pid =>
    if (s.enCpu pid).isNone then
      (manejarObtenerContextoCpu s.memoria pid).map fun ctx ↦
        { s with enCpu := Function.update s.enCpu pid (some ⟨ctx, true⟩) }
    else none
  | .ejecutar pid sticks =>
    (s.enCpu pid).bind fun c ↦
      if c.sigue then
        (instruccionDelCiclo stringSplit s.segmentMaxSize sticks s.memoria.procesos c.contexto
          s.memoria.ram.tabla).map (s.trasInstruccion stringSplit pid c)
      else none
  | .actualizarContexto pid =>
    (s.enCpu pid).map fun c ↦
      { s with
        espejo := s.espejoCon (manejarActualizarContextoCpu s.memoria c.contexto)
        enCpu := Function.update s.enCpu pid none }

/-- A process is created once, with a pid that no CPU runs. -/
def Nueva : Operacion → Prop
  | .crearProceso pid _ => procesosBuscar s.memoria.procesos pid = none ∧ (s.enCpu pid).isNone
  | _ => True

/-- A request does not touch a process that is on a CPU. -/
def Ajena (op : Operacion) : Prop :=
  ∀ p ∈ s.memoria.procesos, (s.enCpu p.pid).isSome →
    procesosBuscar (atender qsort s.memoria op).2.procesos p.pid = procesosBuscar s.memoria.procesos p.pid ∧
      p.pid ∉ s.espejo.corrida.suspendidosTras op

/-- The events of the runs. A CPU gets no suspended process, can hold its context and is connected to the sticks;
the instructions read what their process has written. -/
def Fiable : EventoComputo → Prop
  | .pedido op => s.espejo.Fiable (.pedido op) ∧ s.Nueva op ∧ s.Ajena qsort op
  | .obtenerContexto pid => pid ∉ s.espejo.corrida.suspendidos ∧
    ∀ p ∈ procesosBuscar s.memoria.procesos pid, ContextoCabe p.segmentos
  | .ejecutar pid sticks => MismosSticks sticks s.memoria.ram.tabla ∧
    ∀ c ∈ s.enCpu pid, (s.siguiente stringSplit pid c).isSome
  | .actualizarContexto _ => True

instance : DecidablePred s.Nueva
  | .crearProceso _ _ => inferInstanceAs (Decidable (_ ∧ _))
  | .registrarMemoryStick _ _ | .registrarSwap _ | .solicitarSegmento _ _ _ | .eliminarSegmento _ _
  | .finalizarProceso _ | .suspenderProceso _ | .desSuspenderProceso _ | .obtenerEspacioLibre
  | .lecturaMemoria _ _ _ | .escrituraMemoria _ _ _ _ => inferInstanceAs (Decidable True)

instance : DecidablePred (s.Ajena qsort) := fun _ ↦ inferInstanceAs (Decidable (∀ _ ∈ _, _ → _ ∧ _))

instance (sticks : List CpuStick) (tabla : List MemoryStick) : Decidable (MismosSticks sticks tabla) :=
  decidable_of_iff _ mismosSticks_iff.symm

instance : DecidablePred (s.Fiable qsort stringSplit)
  | .pedido _ => inferInstanceAs (Decidable (_ ∧ _ ∧ _))
  | .obtenerContexto _ => inferInstanceAs (Decidable (_ ∉ _ ∧ ∀ p ∈ _, _))
  | .ejecutar _ _ => inferInstanceAs (Decidable (_ ∧ ∀ c ∈ _, _))
  | .actualizarContexto _ => inferInstanceAs (Decidable True)

end Paso

/-- After `*_init`, with every CPU free. -/
structure Inicial (s : Computo) : Prop where
  espejo : s.espejo.Inicial
  libres : ∀ pid, s.enCpu pid = none

/-- The registers of a process: on its CPU, or where they were saved. -/
def registros (s : Computo) (pid : ℤ) (p : Proceso) : Registros :=
  ((s.enCpu pid).map fun c ↦ c.contexto.registros).getD p.registros

section Invariante

variable [Recepcion]

/-- A process is where it would be alone, with the results it had. -/
def ComoSolo (stringSplit : String → String → List String) (s : Computo) (pid : ℤ) (p : Proceso) : Prop :=
  Traces.follow (Maquina.paso stringSplit s.segmentMaxSize p.instrucciones) ⟨.cero, []⟩ (s.historia pid) =
    some ⟨s.registros pid p, s.espejo.privadas pid⟩

/-! ## The invariant -/

/-- The context on a CPU is of its process, which is in RAM with the same table. -/
structure EnSuLugar (s : Computo) (pid : ℤ) (c : EnCurso) : Prop where
  mismo : c.contexto.pid = pid
  activo : pid ∉ s.espejo.corrida.suspendidos
  proceso : ∃ p, procesosBuscar s.memoria.procesos pid = some p ∧ c.contexto.tablaSegmentos = p.segmentos

structure Fiel (stringSplit : String → String → List String) (s : Computo) : Prop where
  espejo : s.espejo.Fiel
  pids : s.memoria.pids.Nodup
  enCpu : ∀ pid c, s.enCpu pid = some c → s.EnSuLugar pid c
  solos : ∀ pid p, procesosBuscar s.memoria.procesos pid = some p → s.ComoSolo stringSplit pid p

theorem Inicial.fiel {s : Computo} (h : s.Inicial) (stringSplit : String → String → List String) :
    s.Fiel stringSplit := by
  have hprocesos : s.memoria.procesos = [] := h.espejo.corrida.1
  refine ⟨h.espejo.fiel, ?_, ?_, ?_⟩
  · rw [KernelMemory.pids, hprocesos]
    exact List.nodup_nil
  · intro pid c hc
    cases (h.libres pid).symm.trans hc
  · intro pid p hp
    rw [hprocesos] at hp
    cases hp

end Invariante

section Pasos

variable {qsort : Qsort} {stringSplit : String → String → List String} {s s' : Computo} {pid : ℤ}
  {p p' : Proceso} {c : EnCurso}

theorem registros_of_none (h : s.enCpu pid = none) : s.registros pid p = p.registros := by
  unfold registros
  rw [h]
  rfl

theorem registros_of_some (h : s.enCpu pid = some c) : s.registros pid p = c.contexto.registros := by
  unfold registros
  rw [h]
  rfl

/-- A process without segments has no memory. -/
theorem privadas_eq_nil (h : s.espejo.Fiel) (hp : procesosBuscar s.memoria.procesos pid = some p)
    (hvacia : p.segmentos = []) : s.espejo.privadas pid = [] := by
  have hrefleja := h.refleja pid
  have hningun : s.espejo.corrida.memoria.segmentosDe pid = [] := (segmentosDe_of_buscar hp).trans hvacia
  rw [hningun] at hrefleja
  exact List.forall₂_nil_left_iff.mp hrefleja

theorem registros_otro {otro : ℤ} (hotro : otro ≠ pid) {cpu : Option EnCurso}
    (h : s'.enCpu = Function.update s.enCpu pid cpu) : s'.registros otro p = s.registros otro p := by
  unfold registros
  rw [h, Function.update_of_ne hotro]

/-- One CPU gets or leaves a process. -/
theorem enSuLugar_update (h : ∀ pid c, s.enCpu pid = some c → s.EnSuLugar pid c) {cpu : Option EnCurso}
    (henCpu : s'.enCpu = Function.update s.enCpu pid cpu)
    (hotros : ∀ otro c, otro ≠ pid → s.EnSuLugar otro c → s'.EnSuLugar otro c)
    (hmismo : ∀ c, cpu = some c → s'.EnSuLugar pid c) :
    ∀ otro c, s'.enCpu otro = some c → s'.EnSuLugar otro c := by
  intro otro c hc
  rw [henCpu] at hc
  by_cases hotro : otro = pid
  · subst hotro
    rw [Function.update_self] at hc
    exact hmismo c hc
  · rw [Function.update_of_ne hotro] at hc
    exact hotros otro c hotro (h otro c hc)

theorem rangosResidentes_procesosModificar {f : Proceso → Proceso} {procesos : List Proceso}
    (hp : procesosBuscar procesos pid = some p) (hf : (f p).segmentos = p.segmentos) :
    rangosResidentes (procesosModificar pid f procesos) = rangosResidentes procesos := by
  obtain ⟨antes, despues, rfl, -, -, hmodificar, -⟩ := procesosBuscar_split hp
  rw [hmodificar]
  simp only [rangosResidentes, List.flatMap_append, List.flatMap_cons, hf]

theorem registros_puesto (h : s'.enCpu = Function.update s.enCpu pid (some c)) :
    s'.registros pid p = c.contexto.registros := by
  apply registros_of_some
  rw [h, Function.update_self]

/-- A context that is written back with the table that is there. -/
theorem fiel_actualizarContexto (h : s.espejo.Fiel) {ctx : Contexto}
    (hp : procesosBuscar s.memoria.procesos ctx.pid = some p) (htabla : ctx.tablaSegmentos = p.segmentos) :
    (s.espejoCon (manejarActualizarContextoCpu s.memoria ctx)).Fiel := by
  have hocupacion : (manejarActualizarContextoCpu s.memoria ctx).ocupacion = s.memoria.ocupacion :=
    congrArg (rangosLibres s.memoria.bloquesLibres ++ ·)
      (rangosResidentes_procesosModificar (f := fun p ↦ actualizarProcesoDesdeContexto p ctx) hp htabla)
  have htablas := h.reparte.tablas
  refine ⟨⟨h.reparte.bases, h.reparte.suma, ?_, ?_, ?_⟩, ⟨h.uso.swap, h.uso.total, h.uso.sana⟩, ?_⟩
  · show ByteRange.Packed ([] ++ (manejarActualizarContextoCpu s.memoria ctx).ocupacion) _
    rw [hocupacion]
    exact h.reparte.juntos
  · show ¬ True → _
    exact fun hno ↦ absurd trivial hno
  · apply htablas.modificar hp rfl (fun _ _ ↦ Iff.rfl)
    · intro hactivo seg hseg
      have hpid : p.pid ∉ s.espejo.corrida.suspendidos := by
        rw [procesosBuscar_pid hp]
        exact hactivo
      exact htablas.activo p (procesosBuscar_mem hp) hpid seg (htabla ▸ hseg)
    · intro hsuspendido seg hseg
      have hpid : p.pid ∈ s.espejo.corrida.suspendidos := by
        rw [procesosBuscar_pid hp]
        exact hsuspendido
      exact htablas.suspendido p (procesosBuscar_mem hp) hpid seg (htabla ▸ hseg)
  · refine h.refleja.congr ?_ rfl rfl
    have htablaDe : tablaDe s.memoria.procesos ctx.pid = some ctx.tablaSegmentos :=
      tablaDe_eq_some.mpr ⟨p, hp, htabla.symm⟩
    intro otro
    exact congrArg (Option.getD · []) (tablaDe_actualizarContexto ctx.registros htablaDe otro)

variable [Recepcion]

/-- A process whose history, script, registers and memory stay is where it would be alone. -/
theorem ComoSolo.congr (h : s.ComoSolo stringSplit pid p) (hconfig : s'.memoria.config = s.memoria.config)
    (hhistoria : s'.historia pid = s.historia pid) (hscript : p'.instrucciones = p.instrucciones)
    (hregistros : s'.registros pid p' = s.registros pid p)
    (hmemoria : s'.espejo.privadas pid = s.espejo.privadas pid) : s'.ComoSolo stringSplit pid p' := by
  unfold ComoSolo segmentMaxSize at h ⊢
  rw [hconfig, hhistoria, hscript, hregistros, hmemoria]
  exact h

/-- A process that was created has done nothing, and has no segments. -/
theorem comoSolo_nueva (h : s.espejo.Fiel) {instrucciones : List String}
    (hp : procesosBuscar s.memoria.procesos pid = some ⟨pid, .cero, [], instrucciones⟩)
    (hlibre : s.enCpu pid = none) (hhistoria : s.historia pid = []) :
    s.ComoSolo stringSplit pid ⟨pid, .cero, [], instrucciones⟩ := by
  unfold ComoSolo
  rw [hhistoria, registros_of_none hlibre, privadas_eq_nil h hp rfl]
  rfl

/-- One more step of the process. -/
theorem ComoSolo.siguiente (h : s.ComoSolo stringSplit pid p) (hconfig : s'.memoria.config = s.memoria.config)
    {propio : PasoPropio} (hhistoria : s'.historia pid = s.historia pid ++ [propio])
    (hscript : p'.instrucciones = p.instrucciones)
    (hpropio : (⟨s.registros pid p, s.espejo.privadas pid⟩ : Maquina).paso stringSplit s.segmentMaxSize
      p.instrucciones propio = some ⟨s'.registros pid p', s'.espejo.privadas pid⟩) :
    s'.ComoSolo stringSplit pid p' := by
  have hmismo : s'.segmentMaxSize = s.segmentMaxSize := by rw [segmentMaxSize, hconfig, segmentMaxSize]
  unfold ComoSolo
  rw [hmismo, hscript, hhistoria, Traces.follow_concat h]
  exact hpropio

/-! ### Requests -/

theorem historiaTras_nueva (qsort : Qsort) (s : Computo) (pid : ℤ) (instrucciones : List String) :
    s.historiaTras qsort (.crearProceso pid instrucciones) pid = [] :=
  Function.update_self ..

/-- A request that does nothing for a process leaves its history and its memory. -/
theorem historiaTras_otra {op : Operacion} (hnueva : ∀ instrucciones, op ≠ .crearProceso pid instrucciones)
    (hefecto : ∀ propia, s.espejo.efecto qsort (.pedido op) = some propia → pid ≠ propia.owner) :
    s.historiaTras qsort op pid = s.historia pid ∧
      aplicarEfecto (s.espejo.efecto qsort (.pedido op)) s.espejo.privadas pid = s.espejo.privadas pid := by
  have hhistoria : (s.espejo.efecto qsort (.pedido op)).elim s.historia (fun propia ↦
      Function.update s.historia propia.owner (s.historia propia.owner ++ [.operacion propia])) pid =
        s.historia pid := by
    cases h : s.espejo.efecto qsort (.pedido op) with
    | none => rfl
    | some propia => exact Function.update_of_ne (hefecto propia h) _ _
  constructor
  · cases op with
    | crearProceso otro instrucciones =>
      apply Function.update_of_ne
      rintro rfl
      exact hnueva instrucciones rfl
    | _ => exact hhistoria
  · cases h : s.espejo.efecto qsort (.pedido op) with
    | none => rfl
    | some propia => exact Op.apply_other (hefecto propia h)

/-- What a request does for a process is the next step of its history. -/
theorem historiaTras_propia {op : Operacion} {propia : Op ℤ UInt32 UInt8}
    (hefecto : s.espejo.efecto qsort (.pedido op) = some propia) :
    s.historiaTras qsort op propia.owner = s.historia propia.owner ++ [.operacion propia] ∧
      aplicarEfecto (s.espejo.efecto qsort (.pedido op)) s.espejo.privadas propia.owner =
        propia.onRegions (s.espejo.privadas propia.owner) := by
  constructor
  · cases op with
    | crearProceso otro instrucciones => cases hefecto
    | _ =>
      simp only [historiaTras, hefecto, Option.elim_some]
      exact Function.update_self ..
  · rw [hefecto]
    exact propia.apply_owner _

theorem Fiel.pedido (h : s.Fiel stringSplit) {op : Operacion} (hfiable : s.Fiable qsort stringSplit (.pedido op))
    (hpaso : s.paso qsort stringSplit (.pedido op) = some s') : s'.Fiel stringSplit := by
  obtain ⟨hespejo, hnueva, hajena⟩ := hfiable
  obtain ⟨espejo', hespejo', rfl⟩ := Option.map_eq_some_iff.mp hpaso
  obtain ⟨hfiel, hconfig⟩ := h.espejo.paso hespejo hespejo'
  obtain ⟨corrida', hcorrida', rfl⟩ := Option.map_eq_some_iff.mp hespejo'
  obtain ⟨-, rfl⟩ := Corrida.paso_eq_some hcorrida'
  have hcreada : ∀ pid instrucciones, op = .crearProceso pid instrucciones →
      procesosBuscar s.memoria.procesos pid = none ∧ s.enCpu pid = none := by
    rintro pid instrucciones rfl
    exact ⟨hnueva.1, Option.isNone_iff_eq_none.mp hnueva.2⟩
  refine ⟨hfiel, ?_, ?_, ?_⟩
  · exact nodup_pids_atender qsort h.pids fun pid instrucciones heq ↦ (hcreada pid instrucciones heq).1
  · intro pid c hc
    obtain ⟨hpid, -, p, hp, htabla⟩ := h.enCpu pid c hc
    obtain rfl := procesosBuscar_pid hp
    obtain ⟨hmismo, hactivo⟩ := hajena p (procesosBuscar_mem hp) (Option.isSome_iff_exists.mpr ⟨c, hc⟩)
    exact ⟨hpid, hactivo, p, hmismo.trans hp, htabla⟩
  · intro pid p' hp'
    rcases encontrado_antes qsort h.pids (fun pid instrucciones heq ↦ (hcreada pid instrucciones heq).1) hp' with
      ⟨instrucciones, rfl, rfl⟩ | ⟨hvieja, p, hp, hsinTabla⟩
    · exact comoSolo_nueva hfiel hp' (hcreada pid instrucciones rfl).2 (historiaTras_nueva qsort s pid instrucciones)
    · have hscript : p'.instrucciones = p.instrucciones := congrArg (fun q ↦ q.instrucciones) hsinTabla
      have hguardados : p'.registros = p.registros := congrArg (fun q ↦ q.registros) hsinTabla
      have hregistros : s.registros pid p' = s.registros pid p := congrArg (Option.getD _) hguardados
      by_cases hpropia : ∃ propia, s.espejo.efecto qsort (.pedido op) = some propia ∧ pid = propia.owner
      · obtain ⟨propia, hefecto, rfl⟩ := hpropia
        obtain ⟨hhistoria, hmemoria⟩ := historiaTras_propia hefecto
        refine (h.solos propia.owner p hp).siguiente ?_ hhistoria hscript ?_
        · exact hconfig
        show some _ = some _
        rw [← hmemoria, ← hregistros]
        rfl
      · obtain ⟨hhistoria, hmemoria⟩ := historiaTras_otra hvieja fun propia hefecto hpid ↦
          hpropia ⟨propia, hefecto, hpid⟩
        refine (h.solos pid p hp).congr ?_ hhistoria hscript hregistros hmemoria
        exact hconfig

/-! ### CPUs -/

theorem Fiel.obtenerContexto (h : s.Fiel stringSplit) (hactivo : pid ∉ s.espejo.corrida.suspendidos)
    (hpaso : s.paso qsort stringSplit (.obtenerContexto pid) = some s') : s'.Fiel stringSplit := by
  simp only [paso] at hpaso
  split at hpaso
  swap
  · cases hpaso
  rename_i hlibre
  rw [Option.isNone_iff_eq_none] at hlibre
  obtain ⟨ctx, hctx, rfl⟩ := Option.map_eq_some_iff.mp hpaso
  obtain ⟨p, hp, rfl⟩ := Option.map_eq_some_iff.mp hctx
  refine ⟨h.espejo, h.pids, ?_, ?_⟩
  · apply enSuLugar_update h.enCpu rfl
    · exact fun _ _ _ hlugar ↦ ⟨hlugar.mismo, hlugar.activo, hlugar.proceso⟩
    · intro c hc
      obtain rfl := Option.some.inj hc
      exact ⟨rfl, hactivo, p, hp, rfl⟩
  · intro otro q hq
    refine (h.solos otro q hq).congr rfl rfl rfl ?_ rfl
    by_cases hotro : otro = pid
    · subst hotro
      obtain rfl := Option.some.inj (hq.symm.trans hp)
      rw [registros_of_none hlibre]
      exact registros_puesto (c := ⟨⟨otro, q.registros, q.segmentos⟩, true⟩) rfl
    · exact registros_otro hotro rfl

/-- The CPU that has a process executes what the process alone executes. -/
theorem Fiel.instruccion (h : s.Fiel stringSplit) (hc : s.enCpu pid = some c) {sticks : List CpuStick}
    (hsticks : MismosSticks sticks s.memoria.ram.tabla) {e : EfectoPropio}
    (he : s.siguiente stringSplit pid c = some e) :
    ∃ f, instruccionDelCiclo stringSplit s.segmentMaxSize sticks s.memoria.procesos c.contexto
      s.memoria.ram.tabla = some f ∧ f.Hace s.espejo pid e := by
  obtain ⟨hmismo, hactivo, p, hp, htabla⟩ := h.enCpu pid c hc
  have haldia : CpuAlDia s.espejo.corrida pid sticks c.contexto :=
    ⟨hactivo, htabla.trans (segmentosDe_of_buscar hp).symm, hsticks⟩
  obtain ⟨instr, hinstr, hefecto⟩ := Option.bind_eq_some_iff.mp he
  have hfetch : fetchInstruccion stringSplit s.memoria.procesos c.contexto = some instr := by
    rw [← hinstr]
    unfold fetchInstruccion manejarObtenerInstruccion script
    rw [hmismo, hp]
    rfl
  unfold instruccionDelCiclo
  rw [hfetch]
  exact implementado_executeInstruccion h.espejo haldia rfl rfl instr e hefecto

theorem Fiel.avanza (h : s.Fiel stringSplit) (hc : s.enCpu pid = some c) (hsigue : c.sigue) {sticks : List CpuStick}
    (hsticks : MismosSticks sticks s.memoria.ram.tabla) (hsiguiente : (s.siguiente stringSplit pid c).isSome) :
    (s.paso qsort stringSplit (.ejecutar pid sticks)).isSome := by
  obtain ⟨e, he⟩ := Option.isSome_iff_exists.mp hsiguiente
  obtain ⟨f, hf, -⟩ := h.instruccion hc hsticks he
  have hpaso : s.paso qsort stringSplit (.ejecutar pid sticks) = some (s.trasInstruccion stringSplit pid c f) := by
    simp only [paso, hc, Option.bind_some, hsigue, if_true, hf, Option.map_some]
  rw [hpaso]
  rfl

theorem Fiel.ejecutar (h : s.Fiel stringSplit) {sticks : List CpuStick}
    (hfiable : s.Fiable qsort stringSplit (.ejecutar pid sticks))
    (hpaso : s.paso qsort stringSplit (.ejecutar pid sticks) = some s') : s'.Fiel stringSplit := by
  obtain ⟨hsticks, hdefinida⟩ := hfiable
  obtain ⟨c, hc, hsigue⟩ := Option.bind_eq_some_iff.mp hpaso
  split at hsigue
  swap
  · cases hsigue
  obtain ⟨e, he⟩ := Option.isSome_iff_exists.mp (hdefinida c hc)
  obtain ⟨f, hf, hhace⟩ := h.instruccion hc hsticks he
  rw [hf] at hsigue
  obtain rfl := Option.some.inj hsigue
  obtain ⟨hmismo, hactivo, p, hp, htabla⟩ := h.enCpu pid c hc
  have hprivada : ((s.siguiente stringSplit pid c).map EfectoPropio.memoria).getD (s.espejo.privadas pid) =
      e.memoria := by
    rw [he]
    rfl
  refine ⟨?_, h.pids, ?_, ?_⟩
  · show Espejo.Fiel ⟨_, Function.update _ _ _⟩
    rw [hprivada]
    exact hhace.fiel
  · apply enSuLugar_update h.enCpu rfl
    · exact fun _ _ _ hlugar ↦ ⟨hlugar.mismo, hlugar.activo, hlugar.proceso⟩
    · intro c' hc'
      obtain rfl := Option.some.inj hc'
      exact ⟨hmismo, hactivo, p, hp, htabla⟩
  · intro otro q hq
    by_cases hotro : otro = pid
    · subst hotro
      obtain rfl := Option.some.inj (hp.symm.trans hq)
      have hregistros : (s.trasInstruccion stringSplit otro c f).registros otro p = e.registros :=
        (registros_puesto rfl).trans hhace.registros
      have hmemoria : (s.trasInstruccion stringSplit otro c f).espejo.privadas otro = e.memoria :=
        (Function.update_self otro _ s.espejo.privadas).trans hprivada
      refine (h.solos otro p hp).siguiente rfl (Function.update_self otro _ s.historia) rfl ?_
      have hsiguiente : (⟨c.contexto.registros, s.espejo.privadas otro⟩ : Maquina).siguiente stringSplit
          s.segmentMaxSize p.instrucciones = some e := by
        rw [← he, siguiente, script, hp]
        rfl
      rw [registros_of_some hc, hregistros, hmemoria]
      simp only [Maquina.paso, hsiguiente, Option.bind_some, hhace.resultado, if_true]
      rfl
    · refine (h.solos otro q hq).congr rfl ?_ rfl (registros_otro hotro rfl) ?_
      · exact Function.update_of_ne hotro _ _
      · exact Function.update_of_ne hotro _ _

theorem Fiel.actualizarContexto (h : s.Fiel stringSplit)
    (hpaso : s.paso qsort stringSplit (.actualizarContexto pid) = some s') : s'.Fiel stringSplit := by
  obtain ⟨c, hc, rfl⟩ := Option.map_eq_some_iff.mp hpaso
  obtain ⟨hmismo, hactivo, p, hp, htabla⟩ := h.enCpu pid c hc
  subst hmismo
  refine ⟨fiel_actualizarContexto h.espejo hp htabla, ?_, ?_, ?_⟩
  · have hpids := map_pid_procesosModificar (f := fun p ↦ actualizarProcesoDesdeContexto p c.contexto)
      c.contexto.pid (fun _ ↦ rfl) s.memoria.procesos
    show ((manejarActualizarContextoCpu s.memoria c.contexto).procesos.map Proceso.pid).Nodup
    rw [show (manejarActualizarContextoCpu s.memoria c.contexto).procesos.map Proceso.pid = _ from hpids]
    exact h.pids
  · apply enSuLugar_update h.enCpu rfl
    · intro otro c' hotro hlugar
      obtain ⟨q, hq, htabla'⟩ := hlugar.proceso
      exact ⟨hlugar.mismo, hlugar.activo, q, procesosBuscar_otro hq hotro fun _ ↦ rfl, htabla'⟩
    · intro c' hc'
      cases hc'
  · intro otro q' hq'
    by_cases hotro : otro = c.contexto.pid
    · subst hotro
      have hmodificado := procesosBuscar_mismo (f := fun p ↦ actualizarProcesoDesdeContexto p c.contexto) hp
        fun _ ↦ rfl
      obtain rfl := Option.some.inj (hmodificado.symm.trans hq')
      refine (h.solos c.contexto.pid p hp).congr rfl rfl rfl ?_ rfl
      rw [registros_of_some hc]
      exact registros_of_none (Function.update_self c.contexto.pid _ s.enCpu)
    · have hotra : procesosBuscar (manejarActualizarContextoCpu s.memoria c.contexto).procesos otro = _ :=
        procesosBuscar_modificar fun _ ↦ rfl
      have hq : procesosBuscar s.memoria.procesos otro = some q' := (hotra.trans (if_neg hotro)).symm.trans hq'
      exact (h.solos otro q' hq).congr rfl rfl rfl (registros_otro hotro rfl) rfl

theorem Fiel.paso {e : EventoComputo} (h : s.Fiel stringSplit) (hfiable : s.Fiable qsort stringSplit e)
    (hpaso : s.paso qsort stringSplit e = some s') : s'.Fiel stringSplit := by
  cases e with
  | pedido op => exact h.pedido hfiable hpaso
  | obtenerContexto pid => exact h.obtenerContexto hfiable.1 hpaso
  | ejecutar pid sticks => exact h.ejecutar hfiable hpaso
  | actualizarContexto pid => exact h.actualizarContexto hpaso

end Pasos

/-! ## Every process computes as if it were alone -/

section Cumple

variable [Recepcion]

/-- The memories are private; every process is where its script and its history take it alone, and where it goes
on alone, so does its CPU. -/
structure Cumple (qsort : Qsort) (stringSplit : String → String → List String) (s : Computo) : Prop where
  memorias : s.espejo.Cumple
  procesos : ∀ pid p, procesosBuscar s.memoria.procesos pid = some p → s.ComoSolo stringSplit pid p
  avanza : ∀ pid c sticks, s.enCpu pid = some c → c.sigue → MismosSticks sticks s.memoria.ram.tabla →
    (s.siguiente stringSplit pid c).isSome → (s.paso qsort stringSplit (.ejecutar pid sticks)).isSome

/-- In every run: whatever the other processes do, wherever compactions and suspensions put the segments and on
whichever CPUs the process runs. -/
theorem corre_como_solo (qsort : Qsort) (stringSplit : String → String → List String) (s : Computo)
    (hs : Reachable (Computo.paso qsort stringSplit) Computo.Inicial (Computo.Fiable qsort stringSplit) s) :
    s.Cumple qsort stringSplit := by
  have hfiel : s.Fiel stringSplit :=
    hs.invariant (P := Fiel stringSplit) (fun _ hinicial ↦ hinicial.fiel stringSplit)
      fun _ _ _ hfiel hfiable hpaso ↦ hfiel.paso hfiable hpaso
  exact ⟨hfiel.espejo.cumple, hfiel.solos, fun pid c sticks hc hsigue hsticks hsiguiente ↦
    hfiel.avanza hc hsigue hsticks hsiguiente⟩

end Cumple

section Muestra

local instance recepcionDelComputo : Recepcion := Red.recepcionTipica

def computoInicial : Computo := ⟨espejoInicial, fun _ ↦ none, fun _ ↦ []⟩

theorem computoInicial_inicial : computoInicial.Inicial := ⟨espejoInicial_inicial, fun _ ↦ rfl⟩

/-- The process stores a byte and is evicted. Then a compaction moves its segment into the place of the first one,
and another CPU goes on with the load. -/
theorem corre_como_solo_compactado : ∃ s : Computo,
    (procesosBuscar s.memoria.procesos 2).map (fun p ↦ (p.registros.bx, p.segmentos)) =
        some (7, [⟨0, 0, 2, 0⟩]) ∧ s.Cumple .insercion partirEnBlancos := by
  have hinicio : Reachable (Computo.paso .insercion partirEnBlancos) Computo.Inicial
      (Computo.Fiable .insercion partirEnBlancos) computoInicial := .start computoInicial_inicial
  obtain ⟨s, hs, hp⟩ := hinicio.exists_of_runAllowed
    [.pedido (.registrarMemoryStick stickDeOcho 5), .pedido (.crearProceso 1 []),
      .pedido (.crearProceso 2 ["SET AX 7", "MOV_OUT AX", "MOV_IN BX"]), .pedido (.solicitarSegmento 1 0 3),
      .pedido (.solicitarSegmento 2 0 2), .obtenerContexto 2, .ejecutar 2 cpuDeUnStick, .ejecutar 2 cpuDeUnStick,
      .actualizarContexto 2, .pedido (.eliminarSegmento 1 0), .pedido (.solicitarSegmento 1 1 6),
      .obtenerContexto 2, .ejecutar 2 cpuDeUnStick, .actualizarContexto 2]
    (fun s ↦ (procesosBuscar s.memoria.procesos 2).map (fun p ↦ (p.registros.bx, p.segmentos)) =
      some (7, [⟨0, 0, 2, 0⟩])) (by decide +kernel)
  exact ⟨s, hp, corre_como_solo .insercion partirEnBlancos s hs⟩

end Muestra

end Computo

end PlugAndPlay.Cpu
