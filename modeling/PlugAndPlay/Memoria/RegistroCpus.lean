import PlugAndPlay.Library.ListModify
import PlugAndPlay.Library.Transitions
import PlugAndPlay.Memoria.Conexiones

/-!
# Who tells a CPU about a stick

`registrar_cpu` and `registrar_memory_stick`, each in a thread of its own for every connection. Both put
their side into a table and then walk through the other table, whose lock they hold for one access at a
time. A step is one access or one send.
-/

open PlugAndPlay.Library

namespace PlugAndPlay.Memoria

/-- What a CPU is told about a stick. -/
structure DatosStick where
  tamanio : UInt32
  baseFisica : UInt32
  ip : String
  puerto : String
deriving Repr, DecidableEq

/-- What Kernel Memory sends to a CPU while it registers; the index of the stick is not sent. -/
inductive TramaCpu
  | configMmuCpu (segmentMaxSize : UInt32)
  | nuevaMemoriaDisponible (stick : ℕ) (datos : DatosStick)
deriving Repr, DecidableEq

def TramaCpu.esDe (stick : ℕ) : TramaCpu → Bool
  | .configMmuCpu _ => false
  | .nuevaMemoriaDisponible otro _ => otro = stick

/-- Where `registrar_cpu` is: after `conexiones_agregar_cpu`; before `notificar_sticks_a_cpu`; in its loop, with
`n` and `i`, the accesses made for stick `i` and the local variables. -/
inductive FaseCpu
  | agregada
  | configurada
  | recorre (n i accesos : ℕ) (datos : DatosStick)
deriving Repr, DecidableEq

/-- Where `registrar_memory_stick` is: after `conexiones_agregar_stick`; in `notificar_cpus_de_nuevo_stick`. -/
inductive FaseStick
  | agregado
  | recorre (n i accesos : ℕ)
deriving Repr, DecidableEq

/-- An entry of `active.cpus`, with the thread that registers it and the stream to the CPU. -/
structure CpuRegistrada where
  cpuId : ℤ
  fase : FaseCpu
  tramas : List TramaCpu
deriving Repr, DecidableEq

/-- An entry of `active.sticks`, with the thread that registers it. -/
structure StickRegistrado where
  datos : DatosStick
  fase : FaseStick
deriving Repr, DecidableEq

structure Conectados where
  segmentMaxSize : UInt32
  cpus : List CpuRegistrada
  sticks : List StickRegistrado
deriving Repr, DecidableEq

def maxCpus : ℕ := 1000

inductive EventoConexion
  | agregarCpu (cpuId : ℤ)
  | avanzarCpu (cpu : ℕ)
  | agregarStick (tamanio : UInt32) (ip puerto : String)
  | avanzarStick (stick : ℕ)

/-- The registration thread is past its loop. -/
def FaseCpu.Terminada : FaseCpu → Prop
  | .recorre n i _ _ => n ≤ i
  | _ => False

def FaseStick.Terminada : FaseStick → Prop
  | .recorre n i _ => n ≤ i
  | _ => False

/-- The accessors of the table give 0 or nothing past its end. -/
def datosDe (sticks : List StickRegistrado) (i : ℕ) : DatosStick :=
  (sticks[i]?.map StickRegistrado.datos).getD ⟨0, 0, "", ""⟩

namespace Conectados

variable (c : Conectados)

/-- One round of the loop of `notificar_sticks_a_cpu`: four accesses, then the send. -/
def avanzarRecorrido (cpu : CpuRegistrada) (n i accesos : ℕ) (datos : DatosStick) : CpuRegistrada :=
  let actual := datosDe c.sticks i
  match accesos with
  | 0 => { cpu with fase := .recorre n i 1 { datos with tamanio := actual.tamanio } }
  | 1 => { cpu with fase := .recorre n i 2 { datos with baseFisica := actual.baseFisica } }
  | 2 => { cpu with fase := .recorre n i 3 { datos with ip := actual.ip } }
  | 3 => { cpu with fase := .recorre n i 4 { datos with puerto := actual.puerto } }
  | _ =>
    { cpu with
      fase := .recorre n (i + 1) 0 datos
      tramas := cpu.tramas ++ [.nuevaMemoriaDisponible i datos] }

/-- The next step of `registrar_cpu` after `conexiones_agregar_cpu`. -/
def avanzarCpu (cpu : CpuRegistrada) : Option CpuRegistrada :=
  match cpu.fase with
  | .agregada =>
    some { cpu with fase := .configurada, tramas := cpu.tramas ++ [.configMmuCpu c.segmentMaxSize] }
  | .configurada => some { cpu with fase := .recorre c.sticks.length 0 0 ⟨0, 0, "", ""⟩ }
  | .recorre n i accesos datos => if i < n then some (c.avanzarRecorrido cpu n i accesos datos) else none

/-- `enviar_nueva_memoria_disponible` to the CPU at a position. -/
def enviarA (cpu : ℕ) (trama : TramaCpu) : Conectados :=
  { c with cpus := c.cpus.modify cpu fun cpu ↦ { cpu with tramas := cpu.tramas ++ [trama] } }

/-- The thread of a stick goes on. -/
def ponerFaseStick (stick : ℕ) (fase : FaseStick) : Conectados :=
  { c with sticks := c.sticks.modify stick fun stick ↦ { stick with fase := fase } }

/-- The next step of `registrar_memory_stick` after `conexiones_agregar_stick`: for each CPU its socket and its
id are read, then the stick is sent. -/
def avanzarStick (pos : ℕ) (stick : StickRegistrado) : Option Conectados :=
  match stick.fase with
  | .agregado => some (c.ponerFaseStick pos (.recorre c.cpus.length 0 0))
  | .recorre n i accesos =>
    if i < n then
      match accesos with
      | 0 => some (c.ponerFaseStick pos (.recorre n i 1))
      | 1 => some (c.ponerFaseStick pos (.recorre n i 2))
      | _ =>
        some ((c.ponerFaseStick pos (.recorre n (i + 1) 0)).enviarA i
          (.nuevaMemoriaDisponible pos stick.datos))
    else none

/-- One step; no connection is lost meanwhile. -/
def paso (c : Conectados) : EventoConexion → Option Conectados
  | .agregarCpu cpuId =>
    if maxCpus ≤ c.cpus.length then some c
    else some { c with cpus := c.cpus ++ [⟨cpuId, .agregada, []⟩] }
  | .avanzarCpu pos =>
    (c.cpus[pos]?.bind c.avanzarCpu).map fun cpu ↦ { c with cpus := c.cpus.set pos cpu }
  | .agregarStick tamanio ip puerto =>
    if maxMemorySticks ≤ c.sticks.length then some c
    else
      let baseFisica := c.sticks.foldl (fun base stick ↦ base + stick.datos.tamanio) 0
      some { c with sticks := c.sticks ++ [⟨⟨tamanio, baseFisica, ip, puerto⟩, .agregado⟩] }
  | .avanzarStick pos => c.sticks[pos]?.bind (c.avanzarStick pos)

/-- Nobody is connected. -/
def SinConexiones : Prop := c.cpus = [] ∧ c.sticks = []

/-- The first frame of every CPU is `CONFIG_MMU_CPU`, and when all registrations are finished every CPU has one
frame about each stick, with its base and its size. -/
def Acordados : Prop :=
  (∀ cpu ∈ c.cpus, ∀ trama ∈ cpu.tramas.head?, trama = .configMmuCpu c.segmentMaxSize) ∧
    ((∀ cpu ∈ c.cpus, cpu.fase.Terminada) → (∀ stick ∈ c.sticks, stick.fase.Terminada) →
      ∀ cpu ∈ c.cpus, ∀ (pos : ℕ) stick, c.sticks[pos]? = some stick →
        cpu.tramas.filter (·.esDe pos) = [.nuevaMemoriaDisponible pos stick.datos])

/-- A CPU enters its table when every stick in the other one has counted the CPUs, and a stick enters when
every CPU has counted the sticks. -/
def SinSolape (c : Conectados) : EventoConexion → Prop
  | .agregarCpu _ => ∀ stick ∈ c.sticks, stick.fase ≠ .agregado
  | .agregarStick _ _ _ => ∀ cpu ∈ c.cpus, cpu.fase ≠ .agregada ∧ cpu.fase ≠ .configurada
  | _ => True

instance (c : Conectados) : (e : EventoConexion) → Decidable (c.SinSolape e)
  | .agregarCpu _ | .agregarStick _ _ _ => inferInstanceAs (Decidable (∀ entrada ∈ _, _))
  | .avanzarCpu _ | .avanzarStick _ => inferInstanceAs (Decidable True)

end Conectados

/-! ## What every step keeps -/

/-- The sticks that the thread of the CPU has counted, after it has counted them. -/
def FaseCpu.contados : FaseCpu → Option ℕ
  | .recorre n _ _ _ => some n
  | _ => none

/-- The sticks the CPU was told about by its own thread. -/
def FaseCpu.recorridos : FaseCpu → ℕ
  | .recorre _ i _ _ => i
  | _ => 0

def FaseStick.contados : FaseStick → Option ℕ
  | .recorre n _ _ => some n
  | .agregado => none

def FaseStick.recorridos : FaseStick → ℕ
  | .recorre _ i _ => i
  | .agregado => 0

/-- CPU `x` and stick `y`: exactly one of the two threads finds the other side in its table. -/
def Cruce (x y : ℕ) : Option ℕ → Option ℕ → Prop
  | none, none => False
  | none, some cpusContadas => cpusContadas ≤ x
  | some sticksContados, none => sticksContados ≤ y
  | some sticksContados, some cpusContadas => y < sticksContados ↔ cpusContadas ≤ x

/-- The local variables after that many accesses. -/
def Leidos (accesos : ℕ) (datos actual : DatosStick) : Prop :=
  (1 ≤ accesos → datos.tamanio = actual.tamanio) ∧ (2 ≤ accesos → datos.baseFisica = actual.baseFisica) ∧
    (3 ≤ accesos → datos.ip = actual.ip) ∧ (4 ≤ accesos → datos.puerto = actual.puerto)

structure CpuOrdenada (segmentMaxSize : UInt32) (sticks : List StickRegistrado) (cpu : CpuRegistrada) :
    Prop where
  vacia : cpu.fase = .agregada → cpu.tramas = []
  cabeza : cpu.fase ≠ .agregada → cpu.tramas.head? = some (.configMmuCpu segmentMaxSize)
  limite : ∀ n i accesos datos, cpu.fase = .recorre n i accesos datos →
    i ≤ n ∧ n ≤ sticks.length ∧ (i < n → Leidos accesos datos (datosDe sticks i))
  propias : ∀ y, sticks.length ≤ y → cpu.tramas.filter (·.esDe y) = []

/-- What CPU `x` was told about stick `y`, by its own thread and by that of the stick. -/
structure ParOrdenado (x : ℕ) (cpu : CpuRegistrada) (y : ℕ) (stick : StickRegistrado) : Prop where
  cuenta : cpu.tramas.filter (·.esDe y) = List.replicate
    ((if y < cpu.fase.recorridos then 1 else 0) + if x < stick.fase.recorridos then 1 else 0)
    (.nuevaMemoriaDisponible y stick.datos)
  cruce : Cruce x y cpu.fase.contados stick.fase.contados

namespace Conectados

structure Ordenados (c : Conectados) : Prop where
  cpus : ∀ (x : ℕ) cpu, c.cpus[x]? = some cpu → CpuOrdenada c.segmentMaxSize c.sticks cpu
  sticks : ∀ (y : ℕ) stick, c.sticks[y]? = some stick → ∀ n i accesos, stick.fase = .recorre n i accesos →
    i ≤ n ∧ n ≤ c.cpus.length
  pares : ∀ (x : ℕ) cpu (y : ℕ) stick, c.cpus[x]? = some cpu → c.sticks[y]? = some stick →
    ParOrdenado x cpu y stick

variable {c c' : Conectados} {e : EventoConexion} {x y : ℕ} {cpu : CpuRegistrada} {stick : StickRegistrado}

theorem datosDe_eq (h : c.sticks[y]? = some stick) : datosDe c.sticks y = stick.datos := by
  unfold datosDe
  rw [h]
  rfl

/-! ## Registrations begin -/

theorem Ordenados.agregarCpu (h : c.Ordenados) (cpuId : ℤ)
    (hsin : ∀ stick ∈ c.sticks, stick.fase ≠ .agregado) :
    Ordenados { c with cpus := c.cpus ++ [⟨cpuId, .agregada, []⟩] } := by
  refine ⟨fun x cpu hcpu ↦ ?_, fun y stick hstick n i accesos hfase ↦ ?_, fun x cpu y stick hcpu hstick ↦ ?_⟩
  · rcases ListModify.getElem?_concat_cases hcpu with hcpu | ⟨_, rfl⟩
    · exact h.cpus x cpu hcpu
    · exact ⟨fun _ ↦ rfl, fun hno ↦ absurd rfl hno, nofun, fun _ _ ↦ rfl⟩
  · obtain ⟨hi, hn⟩ := h.sticks y stick hstick n i accesos hfase
    refine ⟨hi, ?_⟩
    rw [List.length_append]
    omega
  · rcases ListModify.getElem?_concat_cases hcpu with hcpu | ⟨rfl, rfl⟩
    · exact h.pares x cpu y stick hcpu hstick
    · -- the stick has counted the CPUs, and this one was not among them
      cases hfase : stick.fase with
      | agregado => exact absurd hfase (hsin stick (List.mem_of_getElem? hstick))
      | recorre n i accesos =>
        obtain ⟨hi, hn⟩ := h.sticks y stick hstick n i accesos hfase
        refine ⟨?_, ?_⟩
        · rw [hfase]
          show [] = List.replicate (0 + if c.cpus.length < i then 1 else 0) _
          rw [if_neg (by omega)]
          rfl
        · rw [hfase]
          exact hn

theorem Ordenados.agregarStick (h : c.Ordenados) (datos : DatosStick)
    (hsin : ∀ cpu ∈ c.cpus, cpu.fase ≠ .agregada ∧ cpu.fase ≠ .configurada) :
    Ordenados { c with sticks := c.sticks ++ [⟨datos, .agregado⟩] } := by
  refine ⟨fun x cpu hcpu ↦ ?_, fun y stick hstick n i accesos hfase ↦ ?_, fun x cpu y stick hcpu hstick ↦ ?_⟩
  · have hantes := h.cpus x cpu hcpu
    refine ⟨hantes.vacia, hantes.cabeza, fun n i accesos datos hfase ↦ ?_, fun y hy ↦ ?_⟩
    · obtain ⟨hi, hn, hleidos⟩ := hantes.limite n i accesos datos hfase
      refine ⟨hi, ?_, fun hlt ↦ ?_⟩
      · rw [List.length_append]
        omega
      · unfold datosDe
        rw [List.getElem?_append_left (by omega)]
        exact hleidos hlt
    · rw [List.length_append] at hy
      exact hantes.propias y (by omega)
  · rcases ListModify.getElem?_concat_cases hstick with hstick | ⟨_, rfl⟩
    · exact h.sticks y stick hstick n i accesos hfase
    · cases hfase
  · rcases ListModify.getElem?_concat_cases hstick with hstick | ⟨rfl, rfl⟩
    · exact h.pares x cpu y stick hcpu hstick
    · obtain ⟨hagregada, hconfigurada⟩ := hsin cpu (List.mem_of_getElem? hcpu)
      have hantes := h.cpus x cpu hcpu
      cases hfase : cpu.fase with
      | agregada => exact absurd hfase hagregada
      | configurada => exact absurd hfase hconfigurada
      | recorre n i accesos locales =>
        obtain ⟨hi, hn, _⟩ := hantes.limite n i accesos locales hfase
        refine ⟨?_, ?_⟩
        · rw [hantes.propias _ le_rfl, hfase]
          show [] = List.replicate ((if c.sticks.length < i then 1 else 0) + 0) _
          rw [if_neg (by omega)]
          rfl
        · rw [hfase]
          exact hn

/-! ## The thread of a CPU -/

theorem Ordenados.conCpu (h : c.Ordenados) {cpu' : CpuRegistrada}
    (hcpu : CpuOrdenada c.segmentMaxSize c.sticks cpu')
    (hpares : ∀ (y : ℕ) stick, c.sticks[y]? = some stick → ParOrdenado x cpu' y stick) :
    Ordenados { c with cpus := c.cpus.set x cpu' } := by
  refine ⟨fun x' otra hotra ↦ ?_, fun y stick hstick n i accesos hfase ↦ ?_,
    fun x' otra y stick hotra hstick ↦ ?_⟩
  · rcases ListModify.getElem?_set_cases hotra with ⟨_, rfl⟩ | ⟨_, hotra⟩
    · exact hcpu
    · exact h.cpus x' otra hotra
  · rw [List.length_set]
    exact h.sticks y stick hstick n i accesos hfase
  · rcases ListModify.getElem?_set_cases hotra with ⟨rfl, rfl⟩ | ⟨_, hotra⟩
    · exact hpares y stick hstick
    · exact h.pares x' otra y stick hotra hstick

/-- `enviar_config_mmu_cpu`: nobody has written to this CPU before. -/
theorem Ordenados.configurar (h : c.Ordenados) (hcpu : c.cpus[x]? = some cpu)
    (hfase : cpu.fase = .agregada) :
    Ordenados { c with cpus := c.cpus.set x { cpu with
      fase := .configurada, tramas := cpu.tramas ++ [.configMmuCpu c.segmentMaxSize] } } := by
  have hvacia := (h.cpus x cpu hcpu).vacia hfase
  apply h.conCpu
  · rw [hvacia]
    exact ⟨nofun, fun _ ↦ rfl, nofun, fun _ _ ↦ rfl⟩
  · intro y stick hstick
    have hpar := h.pares x cpu y stick hcpu hstick
    refine ⟨?_, ?_⟩
    · have hcuenta := hpar.cuenta
      rw [hfase] at hcuenta
      rw [List.filter_append]
      exact (List.append_nil _).trans hcuenta
    · have hcruce := hpar.cruce
      rw [hfase] at hcruce
      exact hcruce

/-- `conexiones_cantidad_sticks`: the sticks that are in the table have counted the CPUs without this one. -/
theorem Ordenados.contarSticks (h : c.Ordenados) (hcpu : c.cpus[x]? = some cpu)
    (hfase : cpu.fase = .configurada) :
    Ordenados { c with cpus := c.cpus.set x { cpu with
      fase := .recorre c.sticks.length 0 0 ⟨0, 0, "", ""⟩ } } := by
  have hantes := h.cpus x cpu hcpu
  apply h.conCpu
  · refine ⟨nofun, fun _ ↦ hantes.cabeza (by rw [hfase]; nofun), fun n i accesos datos hrecorre ↦ ?_,
      hantes.propias⟩
    cases hrecorre
    refine ⟨Nat.zero_le _, le_rfl, fun _ ↦ ?_⟩
    exact ⟨by omega, by omega, by omega, by omega⟩
  · intro y stick hstick
    have hpar := h.pares x cpu y stick hcpu hstick
    obtain ⟨hlargo, _⟩ := List.getElem?_eq_some_iff.mp hstick
    refine ⟨?_, ?_⟩
    · have hcuenta := hpar.cuenta
      rw [hfase] at hcuenta
      exact hcuenta
    · have hcruce := hpar.cruce
      rw [hfase] at hcruce
      cases hcontados : stick.fase.contados with
      | none =>
        rw [hcontados] at hcruce
        exact hcruce.elim
      | some contadas =>
        rw [hcontados] at hcruce
        exact iff_of_true hlargo hcruce

/-- One of the accesses of `notificar_sticks_a_cpu`. -/
theorem Ordenados.acceder (h : c.Ordenados) (hcpu : c.cpus[x]? = some cpu) {n i accesos : ℕ}
    {datos datos' : DatosStick} (hfase : cpu.fase = .recorre n i accesos datos)
    (hleidos : i < n → Leidos (accesos + 1) datos' (datosDe c.sticks i)) :
    Ordenados { c with cpus := c.cpus.set x { cpu with fase := .recorre n i (accesos + 1) datos' } } := by
  have hantes := h.cpus x cpu hcpu
  obtain ⟨hi, hn, _⟩ := hantes.limite n i accesos datos hfase
  apply h.conCpu
  · refine ⟨nofun, fun _ ↦ hantes.cabeza (by rw [hfase]; nofun), fun n' i' accesos' datos' hrecorre ↦ ?_,
      hantes.propias⟩
    cases hrecorre
    exact ⟨hi, hn, hleidos⟩
  · intro y stick hstick
    have hpar := h.pares x cpu y stick hcpu hstick
    have hcuenta := hpar.cuenta
    have hcruce := hpar.cruce
    rw [hfase] at hcuenta hcruce
    exact ⟨hcuenta, hcruce⟩

theorem filter_esDe_concat (tramas : List TramaCpu) (y i : ℕ) (datos : DatosStick) :
    (tramas ++ [TramaCpu.nuevaMemoriaDisponible i datos]).filter (·.esDe y) = tramas.filter (·.esDe y) ++
      if i = y then [.nuevaMemoriaDisponible i datos] else [] := by
  rw [List.filter_append]
  congr 1
  split
  · exact List.filter_cons_of_pos (decide_eq_true ‹_›)
  · exact List.filter_cons_of_neg (mt of_decide_eq_true ‹_›)

/-- The send of `notificar_sticks_a_cpu`. -/
theorem Ordenados.enviarStick (h : c.Ordenados) (hcpu : c.cpus[x]? = some cpu) {n i : ℕ}
    {datos : DatosStick} {accesos : ℕ} (hfase : cpu.fase = .recorre n i accesos datos) (hlt : i < n)
    (haccesos : 4 ≤ accesos) :
    Ordenados { c with cpus := c.cpus.set x { cpu with
      fase := .recorre n (i + 1) 0 datos
      tramas := cpu.tramas ++ [.nuevaMemoriaDisponible i datos] } } := by
  have hantes := h.cpus x cpu hcpu
  obtain ⟨_, hn, hleidos⟩ := hantes.limite n i accesos datos hfase
  have hdatos : datos = datosDe c.sticks i := by
    obtain ⟨htamanio, hbase, hip, hpuerto⟩ := hleidos hlt
    cases datos
    cases hactual : datosDe c.sticks i
    rw [hactual] at htamanio hbase hip hpuerto
    simp only [DatosStick.mk.injEq]
    exact ⟨htamanio (by omega), hbase (by omega), hip (by omega), hpuerto (by omega)⟩
  apply h.conCpu
  · refine ⟨nofun, fun _ ↦ ?_, fun n' i' accesos' datos' hrecorre ↦ ?_, fun y hy ↦ ?_⟩
    · rw [List.head?_append, hantes.cabeza (by rw [hfase]; nofun)]
      rfl
    · cases hrecorre
      refine ⟨hlt, hn, fun _ ↦ ?_⟩
      exact ⟨by omega, by omega, by omega, by omega⟩
    · rw [filter_esDe_concat, hantes.propias y hy, if_neg (by omega)]
      rfl
  · intro y stick hstick
    have hpar := h.pares x cpu y stick hcpu hstick
    have hcuenta := hpar.cuenta
    have hcruce := hpar.cruce
    rw [hfase] at hcuenta hcruce
    refine ⟨?_, hcruce⟩
    rw [filter_esDe_concat, hcuenta]
    show List.replicate ((if y < i then 1 else 0) + _) _ ++ _ =
      List.replicate ((if y < i + 1 then 1 else 0) + _) _
    by_cases hy : i = y
    · rw [← hy] at hstick
      rw [if_pos hy, hdatos, datosDe_eq hstick, hy, if_neg (lt_irrefl y), if_pos (Nat.lt_succ_self y),
        Nat.zero_add, Nat.add_comm 1, List.replicate_succ']
    · rw [if_neg hy, List.append_nil]
      have higuales : y < i ↔ y < i + 1 := by omega
      simp only [higuales]

theorem Ordenados.avanzarCpu (h : c.Ordenados) (hcpu : c.cpus[x]? = some cpu) {cpu' : CpuRegistrada}
    (havanza : c.avanzarCpu cpu = some cpu') : Ordenados { c with cpus := c.cpus.set x cpu' } := by
  unfold Conectados.avanzarCpu at havanza
  split at havanza
  · cases havanza
    exact h.configurar hcpu ‹_›
  · cases havanza
    exact h.contarSticks hcpu ‹_›
  · rename_i n i accesos datos hfase
    obtain ⟨hlt, havanza⟩ := Option.ite_none_right_eq_some.mp havanza
    obtain ⟨_, _, hleidos⟩ := (h.cpus x cpu hcpu).limite n i accesos datos hfase
    obtain ⟨htamanio, hbase, hip, hpuerto⟩ := hleidos hlt
    cases havanza
    unfold avanzarRecorrido
    dsimp only
    split
    · exact h.acceder hcpu hfase fun _ ↦ ⟨fun _ ↦ rfl, by omega, by omega, by omega⟩
    · exact h.acceder hcpu hfase fun _ ↦ ⟨fun _ ↦ htamanio le_rfl, fun _ ↦ rfl, by omega, by omega⟩
    · exact h.acceder hcpu hfase fun _ ↦
        ⟨fun _ ↦ htamanio (by omega), fun _ ↦ hbase le_rfl, fun _ ↦ rfl, by omega⟩
    · exact h.acceder hcpu hfase fun _ ↦
        ⟨fun _ ↦ htamanio (by omega), fun _ ↦ hbase (by omega), fun _ ↦ hip le_rfl, fun _ ↦ rfl⟩
    · exact h.enviarStick hcpu hfase hlt (by grind)

/-! ## The thread of a stick -/

theorem datosDe_modify (sticks : List StickRegistrado) (pos : ℕ) (fase : FaseStick) (i : ℕ) :
    datosDe (sticks.modify pos fun stick ↦ { stick with fase := fase }) i = datosDe sticks i := by
  have hmapa := ListModify.map_modify_of_forall sticks pos
    (fun stick ↦ { stick with fase := fase }) StickRegistrado.datos fun _ ↦ rfl
  unfold datosDe
  rw [← List.getElem?_map, ← List.getElem?_map]
  exact congrArg (fun datos ↦ (datos[i]?).getD _) hmapa

/-- Another phase of the thread of stick `y`, and frames for the CPUs. -/
theorem Ordenados.conStick (h : c.Ordenados) {fase : FaseStick} {cpus : List CpuRegistrada}
    (hlargo : cpus.length = c.cpus.length)
    (hlimite : ∀ n i accesos, fase = .recorre n i accesos → i ≤ n ∧ n ≤ c.cpus.length)
    (hcpus : ∀ (x : ℕ) cpu, cpus[x]? = some cpu → CpuOrdenada c.segmentMaxSize c.sticks cpu)
    (hpares : ∀ (x : ℕ) cpu (y' : ℕ) stick, cpus[x]? = some cpu → c.sticks[y']? = some stick →
      ParOrdenado x cpu y' (if y = y' then { stick with fase := fase } else stick)) :
    Ordenados { c with
      cpus := cpus, sticks := c.sticks.modify y fun stick ↦ { stick with fase := fase } } := by
  refine ⟨fun x cpu hcpu ↦ ?_, fun y' stick hstick n i accesos hfase ↦ ?_,
    fun x cpu y' stick hcpu hstick ↦ ?_⟩
  · have hantes := hcpus x cpu hcpu
    refine ⟨hantes.vacia, hantes.cabeza, fun n i accesos datos hfase ↦ ?_, fun y' hy' ↦ ?_⟩
    · obtain ⟨hi, hn, hleidos⟩ := hantes.limite n i accesos datos hfase
      refine ⟨hi, hn.trans_eq (List.length_modify _ _ _).symm, fun hlt ↦ ?_⟩
      rw [datosDe_modify]
      exact hleidos hlt
    · exact hantes.propias y' ((List.length_modify _ _ _).symm.trans_le hy')
  · obtain ⟨antes, hantes, rfl⟩ := ListModify.exists_of_getElem?_modify hstick
    show i ≤ n ∧ n ≤ cpus.length
    rw [hlargo]
    split at hfase
    · exact hlimite n i accesos hfase
    · exact h.sticks y' antes hantes n i accesos hfase
  · obtain ⟨antes, hantes, rfl⟩ := ListModify.exists_of_getElem?_modify hstick
    exact hpares x cpu y' antes hcpu hantes

/-- Nothing is sent. -/
theorem Ordenados.ponerFaseStick (h : c.Ordenados) {fase : FaseStick}
    (hlimite : ∀ n i accesos, fase = .recorre n i accesos → i ≤ n ∧ n ≤ c.cpus.length)
    (hrecorridos : ∀ stick, c.sticks[y]? = some stick → fase.recorridos = stick.fase.recorridos)
    (hcruce : ∀ (x : ℕ) cpu, c.cpus[x]? = some cpu → Cruce x y cpu.fase.contados fase.contados) :
    (c.ponerFaseStick y fase).Ordenados := by
  refine h.conStick rfl hlimite h.cpus fun x cpu y' stick hcpu hstick ↦ ?_
  have hpar := h.pares x cpu y' stick hcpu hstick
  split
  · rename_i hy
    subst hy
    refine ⟨?_, hcruce x cpu hcpu⟩
    show _ = List.replicate (_ + if x < fase.recorridos then 1 else 0) _
    rw [hrecorridos stick hstick]
    exact hpar.cuenta
  · exact hpar

/-- `conexiones_cantidad_cpus`: the CPUs that are in the table have counted the sticks without this one. -/
theorem Ordenados.contarCpus (h : c.Ordenados) (hstick : c.sticks[y]? = some stick)
    (hfase : stick.fase = .agregado) : (c.ponerFaseStick y (.recorre c.cpus.length 0 0)).Ordenados := by
  refine h.ponerFaseStick (fun n i accesos hrecorre ↦ ?_) (fun otro hotro ↦ ?_) fun x cpu hcpu ↦ ?_
  · cases hrecorre
    exact ⟨Nat.zero_le _, le_rfl⟩
  · obtain rfl := Option.some.inj (hstick.symm.trans hotro)
    rw [hfase]
    rfl
  · have hcruce := (h.pares x cpu y stick hcpu hstick).cruce
    obtain ⟨hlargo, _⟩ := List.getElem?_eq_some_iff.mp hcpu
    rw [hfase] at hcruce
    cases hcontados : cpu.fase.contados with
    | none =>
      rw [hcontados] at hcruce
      exact hcruce.elim
    | some contados =>
      rw [hcontados] at hcruce
      exact iff_of_false (not_lt_of_ge hcruce) (not_le_of_gt hlargo)

/-- One of the accesses of `notificar_cpus_de_nuevo_stick`. -/
theorem Ordenados.accederCpu (h : c.Ordenados) (hstick : c.sticks[y]? = some stick) {n i accesos : ℕ}
    (hfase : stick.fase = .recorre n i accesos) (despues : ℕ) :
    (c.ponerFaseStick y (.recorre n i despues)).Ordenados := by
  refine h.ponerFaseStick (fun n' i' accesos' hrecorre ↦ ?_) (fun otro hotro ↦ ?_) fun x cpu hcpu ↦ ?_
  · cases hrecorre
    exact h.sticks y stick hstick n i accesos hfase
  · obtain rfl := Option.some.inj (hstick.symm.trans hotro)
    rw [hfase]
    rfl
  · have hcruce := (h.pares x cpu y stick hcpu hstick).cruce
    rw [hfase] at hcruce
    exact hcruce

/-- The send of `notificar_cpus_de_nuevo_stick`. -/
theorem Ordenados.enviarCpu (h : c.Ordenados) (hstick : c.sticks[y]? = some stick) {n i accesos : ℕ}
    (hfase : stick.fase = .recorre n i accesos) (hlt : i < n) :
    ((c.ponerFaseStick y (.recorre n (i + 1) 0)).enviarA i
      (.nuevaMemoriaDisponible y stick.datos)).Ordenados := by
  obtain ⟨_, hn⟩ := h.sticks y stick hstick n i accesos hfase
  obtain ⟨hlargo, _⟩ := List.getElem?_eq_some_iff.mp hstick
  -- the CPU was in the table when the stick counted, and had its configuration before
  have hconfigurada : ∀ cpu, c.cpus[i]? = some cpu → cpu.fase ≠ .agregada := by
    intro cpu hcpu hagregada
    have hcruce := (h.pares i cpu y stick hcpu hstick).cruce
    rw [hagregada, hfase] at hcruce
    exact absurd hlt (not_lt_of_ge hcruce)
  refine h.conStick (List.length_modify _ _ _) (fun n' i' accesos' hrecorre ↦ ?_) (fun x cpu hcpu ↦ ?_)
    fun x cpu y' otro hcpu hotro ↦ ?_
  · cases hrecorre
    exact ⟨hlt, hn⟩
  · obtain ⟨antes, hantes, rfl⟩ := ListModify.exists_of_getElem?_modify hcpu
    have hcpu' := h.cpus x antes hantes
    split
    · rename_i hx
      subst hx
      have hcabeza := hconfigurada antes hantes
      refine ⟨fun hagregada ↦ absurd hagregada hcabeza, fun _ ↦ ?_, hcpu'.limite, fun y' hy' ↦ ?_⟩
      · rw [List.head?_append, hcpu'.cabeza hcabeza]
        rfl
      · rw [filter_esDe_concat, hcpu'.propias y' hy', if_neg (by omega)]
        rfl
    · exact hcpu'
  · obtain ⟨antes, hantes, rfl⟩ := ListModify.exists_of_getElem?_modify hcpu
    have hpar := h.pares x antes y' otro hantes hotro
    have hcuenta := hpar.cuenta
    by_cases hy : y = y'
    · subst hy
      obtain rfl := Option.some.inj (hstick.symm.trans hotro)
      have hcruce := hpar.cruce
      rw [hfase] at hcuenta hcruce
      rw [if_pos rfl]
      by_cases hx : i = x
      · subst hx
        rw [if_pos rfl]
        refine ⟨?_, hcruce⟩
        rw [filter_esDe_concat, if_pos rfl, hcuenta]
        show List.replicate (_ + if i < i then 1 else 0) _ ++ _ =
          List.replicate (_ + if i < i + 1 then 1 else 0) _
        rw [if_neg (lt_irrefl i), if_pos (Nat.lt_succ_self i), Nat.add_zero, List.replicate_succ']
      · rw [if_neg hx]
        refine ⟨hcuenta.trans ?_, hcruce⟩
        have higuales : x < i ↔ x < i + 1 := by omega
        show List.replicate (_ + if x < i then 1 else 0) _ = List.replicate (_ + if x < i + 1 then 1 else 0) _
        simp only [higuales]
    · rw [if_neg hy]
      by_cases hx : i = x
      · rw [if_pos hx]
        refine ⟨?_, hpar.cruce⟩
        rw [filter_esDe_concat, if_neg hy, List.append_nil]
        exact hcuenta
      · rw [if_neg hx]
        exact hpar

/-! ## Runs -/

theorem Ordenados.paso (h : c.Ordenados) (hsin : c.SinSolape e) (hpaso : Conectados.paso c e = some c') :
    c'.Ordenados := by
  cases e with
  | agregarCpu cpuId =>
    simp only [Conectados.paso] at hpaso
    split at hpaso
    · cases hpaso
      exact h
    · cases hpaso
      exact h.agregarCpu cpuId hsin
  | avanzarCpu pos =>
    obtain ⟨cpu', hcpu', rfl⟩ := Option.map_eq_some_iff.mp hpaso
    obtain ⟨cpu, hcpu, havanza⟩ := Option.bind_eq_some_iff.mp hcpu'
    exact h.avanzarCpu hcpu havanza
  | agregarStick tamanio ip puerto =>
    simp only [Conectados.paso] at hpaso
    split at hpaso
    · cases hpaso
      exact h
    · cases hpaso
      exact h.agregarStick _ hsin
  | avanzarStick pos =>
    obtain ⟨stick, hstick, havanza⟩ := Option.bind_eq_some_iff.mp hpaso
    unfold Conectados.avanzarStick at havanza
    split at havanza
    · cases havanza
      exact h.contarCpus hstick ‹_›
    · rename_i n i accesos hfase
      obtain ⟨hlt, havanza⟩ := Option.ite_none_right_eq_some.mp havanza
      split at havanza
      · cases havanza
        exact h.accederCpu hstick hfase 1
      · cases havanza
        exact h.accederCpu hstick hfase 2
      · cases havanza
        exact h.enviarCpu hstick hfase hlt

theorem SinConexiones.ordenados (h : c.SinConexiones) : c.Ordenados := by
  obtain ⟨hcpus, hsticks⟩ := h
  refine ⟨fun x cpu hcpu ↦ ?_, fun y stick hstick ↦ ?_, fun x cpu y stick hcpu ↦ ?_⟩
  · rw [hcpus] at hcpu
    cases hcpu
  · rw [hsticks] at hstick
    cases hstick
  · rw [hcpus] at hcpu
    cases hcpu

theorem Ordenados.acordados (h : c.Ordenados) : c.Acordados := by
  refine ⟨fun cpu hmem trama htrama ↦ ?_, fun hcpus hsticks cpu hmem y stick hstick ↦ ?_⟩
  · obtain ⟨x, hcpu⟩ := List.getElem?_of_mem hmem
    have hantes := h.cpus x cpu hcpu
    by_cases hfase : cpu.fase = .agregada
    · rw [hantes.vacia hfase] at htrama
      cases htrama
    · exact Option.some.inj (htrama.symm.trans (hantes.cabeza hfase))
  · obtain ⟨x, hcpu⟩ := List.getElem?_of_mem hmem
    have hpar := h.pares x cpu y stick hcpu hstick
    have hcuenta := hpar.cuenta
    have hcruce := hpar.cruce
    have hcpuFin := hcpus cpu hmem
    have hstickFin := hsticks stick (List.mem_of_getElem? hstick)
    cases hfase : cpu.fase with
    | agregada =>
      rw [hfase] at hcpuFin
      exact hcpuFin.elim
    | configurada =>
      rw [hfase] at hcpuFin
      exact hcpuFin.elim
    | recorre n i accesos datos =>
      cases hfase' : stick.fase with
      | agregado =>
        rw [hfase'] at hstickFin
        exact hstickFin.elim
      | recorre n' i' accesos' =>
        have hi := (h.cpus x cpu hcpu).limite n i accesos datos hfase
        have hi' := h.sticks y stick hstick n' i' accesos' hfase'
        rw [hfase] at hcpuFin
        rw [hfase'] at hstickFin
        obtain rfl : i = n := le_antisymm hi.1 hcpuFin
        obtain rfl : i' = n' := le_antisymm hi'.1 hstickFin
        rw [hfase, hfase'] at hcuenta hcruce
        change y < i ↔ i' ≤ x at hcruce
        rw [hcuenta]
        show List.replicate ((if y < i then 1 else 0) + if x < i' then 1 else 0) _ = _
        by_cases hy : y < i
        · rw [if_pos hy, if_neg (not_lt_of_ge (hcruce.mp hy))]
          rfl
        · rw [if_neg hy, if_pos (not_le.mp (mt hcruce.mpr hy))]
          rfl

/-- When no registration of a CPU and of a stick overlap between the table and the count, every CPU receives its
configuration first and every stick once. -/
theorem acordados_sinSolape (c : Conectados) (h : Reachable paso SinConexiones SinSolape c) : c.Acordados :=
  (h.invariant (fun _ ↦ SinConexiones.ordenados) fun _ _ _ hordenados hsin hpaso ↦
    hordenados.paso hsin hpaso).acordados

def nadieConectado : Conectados := ⟨100, [], []⟩

/-- The steps of a registration with one entry in the other table. -/
def registroCpu (pos : ℕ) : List EventoConexion := List.replicate 7 (.avanzarCpu pos)

def registroStick (pos : ℕ) : List EventoConexion := List.replicate 4 (.avanzarStick pos)

/-- A stick, a CPU and another stick register one after the other. -/
theorem acordados_dosSticks : ∃ c, Reachable paso SinConexiones SinSolape c ∧
    c.cpus.map CpuRegistrada.tramas = [[.configMmuCpu 100, .nuevaMemoriaDisponible 0 ⟨16, 0, "a", "1"⟩,
      .nuevaMemoriaDisponible 1 ⟨8, 16, "b", "2"⟩]] ∧ c.Acordados := by
  have hinicio : Reachable paso SinConexiones SinSolape nadieConectado := .start ⟨rfl, rfl⟩
  obtain ⟨c, hc, htramas⟩ := hinicio.exists_of_runAllowed
    ([.agregarStick 16 "a" "1", .avanzarStick 0, .agregarCpu 0] ++ registroCpu 0 ++
      [.agregarStick 8 "b" "2"] ++ registroStick 1)
    (fun c ↦ c.cpus.map CpuRegistrada.tramas = [[.configMmuCpu 100,
      .nuevaMemoriaDisponible 0 ⟨16, 0, "a", "1"⟩, .nuevaMemoriaDisponible 1 ⟨8, 16, "b", "2"⟩]])
    (by decide)
  exact ⟨c, hc, htramas, acordados_sinSolape c hc⟩

/-- The stick registers while the CPU is in the table without its configuration: it comes first, and once
more from the thread of the CPU. -/
theorem stick_antes_de_config : ¬ ∀ c, Reachable paso SinConexiones (fun _ _ ↦ True) c → c.Acordados := by
  intro hclaim
  have hinicio : Reachable paso SinConexiones (fun _ _ ↦ True) nadieConectado := .start ⟨rfl, rfl⟩
  obtain ⟨c, hc, htramas⟩ := hinicio.exists_of_runAllowed
    ([.agregarCpu 0, .agregarStick 16 "a" "1"] ++ registroStick 0 ++ registroCpu 0)
    (fun c ↦ c.cpus.map CpuRegistrada.tramas = [[.nuevaMemoriaDisponible 0 ⟨16, 0, "a", "1"⟩,
      .configMmuCpu 100, .nuevaMemoriaDisponible 0 ⟨16, 0, "a", "1"⟩]]) (by decide)
  obtain ⟨cpu, hcpu, hprimera⟩ := List.map_eq_singleton_iff.mp htramas
  have hconfig := (hclaim c hc).1 cpu (hcpu ▸ List.mem_singleton_self _)
    (.nuevaMemoriaDisponible 0 ⟨16, 0, "a", "1"⟩) (by rw [hprimera]; rfl)
  cases hconfig

end Conectados

end PlugAndPlay.Memoria
