import PlugAndPlay.Memoria.Reanudacion

/-!
# Round trips of a process

A process is suspended, other processes run, and it is resumed. If the suspension ran to its end, it
finds its bytes where it left them, read through its logical addresses. If it was left half done, it
finds them exactly when nothing of it was in RAM any more; otherwise they are lost together with
their ranges.
-/

open PlugAndPlay.Library PlugAndPlay.Library.ByteRange

namespace PlugAndPlay.Memoria

/-! ## Logical addresses -/

/-- The segment of a process that a logical address names. -/
def KernelMemory.nombrado (m : KernelMemory) (p : Proceso) (dir : UInt32) : Option Segmento :=
  p.segmentos.find? fun s ↦ s.id = dir / m.config.segmentMaxSize.toUInt32

/-- The address names a byte of a segment of the process. -/
def KernelMemory.Direccionable (m : KernelMemory) (pid : ℤ) (dir : UInt32) : Prop :=
  ∃ p seg, procesosBuscar m.procesos pid = some p ∧ m.nombrado p dir = some seg ∧
    (dir % m.config.segmentMaxSize.toUInt32).toNat < seg.limite.toNat

instance (m : KernelMemory) (pid : ℤ) (dir : UInt32) : Decidable (m.Direccionable pid dir) :=
  decidable_of_iff (∃ p ∈ procesosBuscar m.procesos pid, ∃ seg ∈ m.nombrado p dir,
      (dir % m.config.segmentMaxSize.toUInt32).toNat < seg.limite.toNat)
    ⟨fun ⟨p, hp, seg, hseg, hdir⟩ ↦ ⟨p, seg, hp, hseg, hdir⟩,
      fun ⟨p, seg, hp, hseg, hdir⟩ ↦ ⟨p, hp, seg, hseg, hdir⟩⟩

/-- Reading one byte of a resident segment by its logical address. -/
theorem lectura_direccionable {m : KernelMemory} {pid : ℤ} {dir : UInt32} {p : Proceso}
    {seg : Segmento} (hsana : m.ram.Sana) (hp : procesosBuscar m.procesos pid = some p)
    (hseg : m.nombrado p dir = some seg)
    (hdir : (dir % m.config.segmentMaxSize.toUInt32).toNat < seg.limite.toNat)
    (hres : seg.Residente) (hdentro : seg.base.toNat + seg.limite.toNat ≤ m.ram.total) :
    (manejarLecturaMemoria m pid dir 1).1 = [.lecturaMemoria [plano m.ram.tabla
      (seg.base.toNat + (dir % m.config.segmentMaxSize.toUInt32).toNat)]] := by
  have htotal := m.ram.total_lt
  have huno : (1 : UInt32).toNat = 1 := rfl
  obtain ⟨desplazamiento, hdesp⟩ : ∃ d, d = dir % m.config.segmentMaxSize.toUInt32 := ⟨_, rfl⟩
  rw [← hdesp] at hdir ⊢
  have hlimite := seg.limite.toNat_lt
  have hcabe : ¬ desplazamiento + 1 > seg.limite := by
    rw [gt_iff_lt, UInt32.lt_iff_toNat_lt, toNat_add_of_lt (by rw [huno]; omega), huno]
    omega
  have hfisica : (seg.base + desplazamiento).toNat = seg.base.toNat + desplazamiento.toNat :=
    toNat_add_of_lt (by omega)
  have hbase : seg.base + desplazamiento ≠ sinBase := by
    intro heq
    rw [heq, toNat_sinBase] at hfisica
    omega
  have htraducir : traducirDirLogica m.config p dir 1 = some (seg.base + desplazamiento) := by
    unfold KernelMemory.nombrado at hseg
    simp only [traducirDirLogica, hseg, ← hdesp]
    rw [if_neg hcabe, if_neg hres]
  have hfin : (seg.base + desplazamiento).toNat + (1 : UInt32).toNat ≤ m.ram.total := by
    rw [hfisica, huno]
    omega
  have hleer := memoryIoLeer_plano hsana hfin
  simp only [manejarLecturaMemoria, hp, htraducir, if_neg hbase, hleer, hfisica]
  rfl

/-- The two states hold the same bytes in the segments of the process, segment by segment and as it
reads them through its logical addresses. -/
structure MismosBytes (m m' : KernelMemory) (pid : ℤ) : Prop where
  segmentos : ∃ p p', procesosBuscar m.procesos pid = some p ∧
    procesosBuscar m'.procesos pid = some p' ∧
    List.Forall₂ (fun seg seg' ↦ seg'.id = seg.id ∧ seg'.limite = seg.limite ∧ ∃ datos,
      memoryIoLeer m.ram seg.base seg.limite = (.ok datos, m.ram) ∧
      memoryIoLeer m'.ram seg'.base seg'.limite = (.ok datos, m'.ram)) p.segmentos p'.segmentos
  logicas : ∀ dir, m.Direccionable pid dir → ∃ dato,
    (manejarLecturaMemoria m pid dir 1).1 = [.lecturaMemoria [dato]] ∧
    (manejarLecturaMemoria m' pid dir 1).1 = [.lecturaMemoria [dato]]

/-- Restored segments read as the original ones did. -/
theorem mismosBytes_of_restaurado {m m' : KernelMemory} {pid : ℤ} {p p' : Proceso}
    (hsana : m.ram.Sana) (hsana' : m'.ram.Sana) (hconfig : m'.config = m.config)
    (hp : procesosBuscar m.procesos pid = some p) (hp' : procesosBuscar m'.procesos pid = some p')
    (hdentro : ∀ seg ∈ p.segmentos, seg.base.toNat + seg.limite.toNat ≤ m.ram.total)
    (hsegs : List.Forall₂ (Restaurado (plano m.ram.tabla) m'.ram) p.segmentos p'.segmentos) :
    MismosBytes m m' pid := by
  refine ⟨⟨p, p', hp, hp', ?_⟩, fun dir ⟨q, seg, hq, hseg, hdir⟩ ↦ ?_⟩
  · refine ((List.forall₂_and_left _ _).mpr ⟨hdentro, hsegs⟩).imp fun seg seg' ⟨hfin, hrest⟩ ↦ ?_
    refine ⟨hrest.id, hrest.limite, _, memoryIoLeer_plano hsana hfin, ?_⟩
    rw [memoryIoLeer_plano hsana' hrest.dentro, hrest.bytes]
  · obtain rfl : p = q := Option.some.inj (hp.symm.trans hq)
    obtain ⟨seg', hseg', hrest⟩ := Pointwise.find?_of_forall₂
      (g := fun s ↦ s.id = dir / m.config.segmentMaxSize.toUInt32) hsegs
      (fun s s' hs ↦ by rw [hs.id]) hseg
    have hfin := hdentro seg (List.mem_of_find?_eq_some hseg)
    have hres : seg.Residente := by
      refine (residente_or_limite m.ram.total_lt hfin).resolve_right fun hcero ↦ ?_
      rw [hcero] at hdir
      exact absurd hdir (Nat.not_lt_zero _)
    rw [← hconfig] at hseg'
    have hdir' : (dir % m'.config.segmentMaxSize.toUInt32).toNat < seg'.limite.toNat := by
      rw [hconfig, hrest.limite]
      exact hdir
    refine ⟨_, lectura_direccionable hsana hp hseg hdir hres hfin, ?_⟩
    rw [lectura_direccionable hsana' hp' hseg' hdir' hrest.residente hrest.dentro, hconfig]
    have hbytes := hrest.bytes
    rw [hrest.limite] at hbytes
    rw [ByteMemory.eq_of_slice_eq hbytes hdir]

/-! ## Round trips -/

/-- Every stick is reachable and no connection is about to break. -/
structure Ram.SinFallos (ram : Ram) : Prop where
  abiertos : Alcanzables ram.tabla
  sinCortes : ram.cortes = []

instance (ram : Ram) : Decidable ram.SinFallos :=
  decidable_of_iff ((∀ stick ∈ ram.tabla, 0 ≤ stick.outboundSocket) ∧ ram.cortes = [])
    ⟨fun h ↦ ⟨h.1, h.2⟩, fun h ↦ ⟨h.abiertos, h.sinCortes⟩⟩

theorem Repartida.sana {fugas aMedias : Prop} {m : KernelMemory} {suspendidos : List ℤ}
    (h : Repartida fugas aMedias [] m suspendidos) (hram : m.ram.SinFallos) : m.ram.Sana :=
  ⟨h.bases, hram.abiertos, hram.sinCortes⟩

/-- The block counts of the segments of a process do not wrap. -/
def KernelMemory.SinDesbordes (m : KernelMemory) (pid : ℤ) : Prop :=
  ∀ p, procesosBuscar m.procesos pid = some p →
    ∀ seg ∈ p.segmentos, SinDesborde seg.limite m.swap.blockSize

instance (m : KernelMemory) (pid : ℤ) : Decidable (m.SinDesbordes pid) :=
  decidable_of_iff (∀ p ∈ procesosBuscar m.procesos pid, ∀ seg ∈ p.segmentos,
    SinDesborde seg.limite m.swap.blockSize) Iff.rfl

/-- What a run does around a process: it is suspended, others run, and it is resumed. -/
structure IdaYVuelta (qsort : Qsort) (otros : Corrida → Operacion → Prop) (pid : ℤ)
    (c c₁ c₂ c₃ : Corrida) : Prop where
  suspende : c.paso qsort (.suspenderProceso pid) = some c₁
  corren : Reachable (Corrida.paso qsort) (· = c₁) (fun c op ↦ op.pid ≠ some pid ∧ otros c op) c₂
  reanuda : c₂.paso qsort (.desSuspenderProceso pid) = some c₃
  respuesta : (manejarDesSuspenderProceso c₂.memoria pid).1 = [.ok .desSuspenderProceso]
  sinFallos : c.memoria.ram.SinFallos ∧ c₂.memoria.ram.SinFallos

/-- A round trip with the operations in between given, if they are enabled and it succeeds: the
states before and after the resumption. -/
def Corrida.idaYVuelta (qsort : Qsort) (otros : Corrida → Operacion → Prop)
    [∀ c op, Decidable (otros c op)] (pid : ℤ) (ops : List Operacion) (c : Corrida) :
    Option (Corrida × Corrida) := do
  let c₁ ← c.paso qsort (.suspenderProceso pid)
  let c₂ ← runAllowed (Corrida.paso qsort) (fun c op ↦ op.pid ≠ some pid ∧ otros c op) c₁ ops
  if c.memoria.ram.SinFallos ∧ c₂.memoria.ram.SinFallos ∧
      (manejarDesSuspenderProceso c₂.memoria pid).1 = [.ok .desSuspenderProceso] then
    (c₂.paso qsort (.desSuspenderProceso pid)).map fun c₃ ↦ (c₂, c₃)
  else none

theorem Corrida.exists_of_idaYVuelta {qsort : Qsort} {otros : Corrida → Operacion → Prop}
    [∀ c op, Decidable (otros c op)] {pid : ℤ} {ops : List Operacion} {c : Corrida}
    {P : Corrida × Corrida → Bool} (h : (c.idaYVuelta qsort otros pid ops).any P) :
    ∃ c₁ c₂ c₃, IdaYVuelta qsort otros pid c c₁ c₂ c₃ ∧ P (c₂, c₃) := by
  obtain ⟨par, hpar, hP⟩ := (Option.any_eq_true _ _).mp h
  obtain ⟨c₁, hc₁, hpar⟩ := Option.bind_eq_some_iff.mp hpar
  obtain ⟨c₂, hc₂, hpar⟩ := Option.bind_eq_some_iff.mp hpar
  split at hpar
  · rename_i hfin
    obtain ⟨c₃, hc₃, rfl⟩ := Option.map_eq_some_iff.mp hpar
    obtain ⟨hram, hram₂, hrespuesta⟩ := hfin
    have hinicio : Reachable (Corrida.paso qsort) (· = c₁)
        (fun c op ↦ op.pid ≠ some pid ∧ otros c op) c₁ := .start rfl
    exact ⟨c₁, c₂, c₃, ⟨hc₁, hinicio.of_runAllowed hc₂, hc₃, hrespuesta, hram, hram₂⟩, hP⟩
  · cases hpar

section

variable {qsort : Qsort} {otros : Corrida → Operacion → Prop} {pid : ℤ} {c c₁ c₂ c₃ : Corrida}
  {fugas aMedias : Prop}

theorem suspenderProceso_encontrado {m : KernelMemory}
    (h : (suspenderProceso m pid).1 ≠ .sinProceso) : ∃ p, procesosBuscar m.procesos pid = some p := by
  unfold suspenderProceso at h
  split at h
  · exact absurd rfl h
  · exact ⟨_, ‹_›⟩

/-- The answer of a successful resumption is given to an unknown process as well. -/
theorem desSuspenderProceso_of_respuesta {m : KernelMemory} {p : Proceso}
    (hp : procesosBuscar m.procesos pid = some p)
    (h : (manejarDesSuspenderProceso m pid).1 = [.ok .desSuspenderProceso]) :
    (desSuspenderProceso m pid).1 = .completa := by
  have hno := desSuspenderProceso_fin hp
  unfold manejarDesSuspenderProceso at h
  split at h
  · rename_i heq
    rw [heq]
  · rename_i heq
    rw [heq] at hno
    exact absurd rfl hno
  · cases h

/-- The process is retained from its suspension to its resumption. -/
theorem IdaYVuelta.retenido (h : IdaYVuelta qsort otros pid c c₁ c₂ c₃)
    (hinv : Repartida fugas True [] c.memoria c.suspendidos)
    (hotros : ∀ c op, otros c op → fugas ∨ c.SinFuga op) {p : Proceso}
    (hp : procesosBuscar c.memoria.procesos pid = some p)
    (hswap : c.memoria.swap.Configurado)
    (hsin : ∀ seg ∈ p.segmentos, SinDesborde seg.limite c.memoria.swap.blockSize)
    (hfin : (suspenderProceso c.memoria pid).1 ≠ .sinProceso)
    (hmedias : aMedias ∨ (suspenderProceso c.memoria pid).1 = .completa) :
    Repartida fugas True [] c₂.memoria c₂.suspendidos ∧
      Retenido aMedias (plano c.memoria.ram.tabla) p.segmentos pid c₂.memoria ∧
      c₂.memoria.config = c.memoria.config := by
  obtain ⟨hpide, hc₁⟩ := Corrida.paso_eq_some h.suspende
  obtain ⟨hno, hfallo⟩ := hpide.resolve_left hfin
  have hinv₁ : Repartida fugas True [] c₁.memoria c₁.suspendidos :=
    hinv.paso (Or.inr (show c.SinFuga (.suspenderProceso pid) from trivial)) (Or.inl trivial) h.suspende
  have hmemoria : c₁.memoria = (suspenderProceso c.memoria pid).2 := by
    rw [hc₁]
    exact manejarSuspenderProceso_snd _ _
  obtain ⟨hret₁, hconfig₁⟩ := hinv.retenido (hinv.sana h.sinFallos.1) hp hno hswap hsin
    Prod.mk.eta.symm hfallo hmedias
  rw [← hmemoria] at hret₁ hconfig₁
  have hrun := h.corren.mono (fun c op ↦ op.pid ≠ some pid ∧ (fugas ∨ c.SinFuga op))
    fun s op hop ↦ ⟨hop.1, hotros s op hop.2⟩
  obtain ⟨hinv₂, hret₂, hconfig₂⟩ := hret₁.corrida hrun hinv₁
  exact ⟨hinv₂, hret₂, hconfig₂.trans hconfig₁⟩

/-- What the resumption at the end of a round trip is. -/
theorem IdaYVuelta.completa (h : IdaYVuelta qsort otros pid c c₁ c₂ c₃) {p : Proceso}
    (hp : procesosBuscar c₂.memoria.procesos pid = some p) :
    desSuspenderProceso c₂.memoria pid = (.completa, c₃.memoria) := by
  obtain ⟨_, hc₃⟩ := Corrida.paso_eq_some h.reanuda
  have hfin := desSuspenderProceso_of_respuesta hp h.respuesta
  have hmemoria : c₃.memoria = (desSuspenderProceso c₂.memoria pid).2 := by
    rw [hc₃]
    exact manejarDesSuspenderProceso_snd _ _
  rw [hmemoria, ← hfin]

/-- A round trip restores the process, if no bytes of it were in RAM when it was resumed. -/
theorem IdaYVuelta.mismosBytes (aMedias : Prop) (h : IdaYVuelta qsort otros pid c c₁ c₂ c₃)
    (hinv : Repartida fugas True [] c.memoria c.suspendidos)
    (hotros : ∀ c op, otros c op → fugas ∨ c.SinFuga op)
    (hswap : c.memoria.swap.Configurado)
    (hsin : c.memoria.SinDesbordes pid)
    (hfin : (suspenderProceso c.memoria pid).1 ≠ .sinProceso)
    (hmedias : aMedias ∨ (suspenderProceso c.memoria pid).1 = .completa)
    (hres : aMedias → c₂.SinFuga (.desSuspenderProceso pid)) :
    MismosBytes c.memoria c₃.memoria pid := by
  obtain ⟨p, hp⟩ := suspenderProceso_encontrado hfin
  obtain ⟨hpide, _⟩ := Corrida.paso_eq_some h.suspende
  have hno : pid ∉ c.suspendidos := (hpide.resolve_left hfin).1
  obtain ⟨hinv₂, hret₂, hconfig₂⟩ :=
    h.retenido hinv hotros hp hswap (hsin p hp) hfin hmedias
  obtain ⟨q, hq, _⟩ := hret₂.tabla
  obtain ⟨hsana₃, hconfig₃, p', hp', hsegs⟩ :=
    hret₂.reanudar hinv₂ (hinv₂.sana h.sinFallos.2) (h.completa hq) hres
  refine mismosBytes_of_restaurado (hinv.sana h.sinFallos.1) hsana₃ (hconfig₃.trans hconfig₂) hp hp'
    ?_ hsegs
  rw [c.memoria.ram.total_eq hinv.suma]
  exact hinv.segmentos_le hp hno

/-- What every run of Kernel Memory keeps. -/
theorem Repartida.alcanzable {allowed : Corrida → Operacion → Prop}
    (hallowed : ∀ c op, allowed c op → fugas ∨ c.SinFuga op)
    (hc : Reachable (Corrida.paso qsort) Corrida.Inicial allowed c) :
    Repartida fugas True [] c.memoria c.suspendidos ∧ c.memoria.swap.Configurado := by
  apply hc.invariant (P := fun c ↦ Repartida fugas True [] c.memoria c.suspendidos ∧
    c.memoria.swap.Configurado)
  · intro s hs
    refine ⟨Repartida.inicial hs.1 hs.2.1 hs.2.2.1, ?_⟩
    rw [hs.2.2.2.1]
    exact Swap.configurado_desconectado
  · rintro s op s' ⟨hinv, hswap⟩ hop hpaso
    exact ⟨hinv.paso (hallowed s op hop) (Or.inl trivial) hpaso, hinv.configurado hpaso hswap⟩

end

/-- The round trip of a complete suspension: in every run in which the block count of no segment of
the process wraps, and whatever operations of other processes come in between, a resumption that
succeeds leaves every byte of the process as it was. -/
theorem suspension_ida_y_vuelta (qsort : Qsort) (pid : ℤ) (c c₁ c₂ c₃ : Corrida)
    (hc : Reachable (Corrida.paso qsort) Corrida.Inicial (fun _ _ ↦ True) c)
    (hcompleta : (suspenderProceso c.memoria pid).1 = .completa)
    (hsin : c.memoria.SinDesbordes pid)
    (h : IdaYVuelta qsort (fun _ _ ↦ True) pid c c₁ c₂ c₃) :
    MismosBytes c.memoria c₃.memoria pid := by
  obtain ⟨hinv, hswap⟩ := Repartida.alcanzable (fun _ _ _ ↦ Or.inl trivial) hc
  refine h.mismosBytes False hinv (fun _ _ _ ↦ Or.inl trivial) hswap hsin ?_ (Or.inr hcompleta)
    False.elim
  rw [hcompleta]
  exact nofun

/-- A process with three bytes next to another one. -/
def operacionesTresBytes : List Operacion :=
  [.registrarMemoryStick stickDeOcho 5, .registrarSwap swapDeOcho, .crearProceso 1 [],
    .crearProceso 2 [], .solicitarSegmento 1 0 3, .escrituraMemoria 1 0 3 [7, 8, 9]]

/-- The other process takes its place and makes a round trip of its own. -/
def operacionesAjenas : List Operacion :=
  [.solicitarSegmento 2 0 5, .escrituraMemoria 2 0 4 [1, 2, 3, 4], .suspenderProceso 2,
    .desSuspenderProceso 2]

theorem suspension_ida_y_vuelta_tresBytes :
    ∃ c c₃ : Corrida, (manejarLecturaMemoria c.memoria 1 0 3).1 = [.lecturaMemoria [7, 8, 9]] ∧
      segmentoEn c₃.memoria.procesos 0 0 = some ⟨0, 5, 3, 0⟩ ∧
        MismosBytes c.memoria c₃.memoria 1 := by
  have hinicio : Reachable (Corrida.paso .insercion) Corrida.Inicial (fun _ _ ↦ True)
      corridaInicial := .start corridaInicial_inicial
  obtain ⟨c, hc, hlectura, hcompleta, hsin, hvuelta⟩ := hinicio.exists_of_runAllowed
    operacionesTresBytes
    (fun c ↦ (manejarLecturaMemoria c.memoria 1 0 3).1 = [.lecturaMemoria [7, 8, 9]] ∧
      (suspenderProceso c.memoria 1).1 = .completa ∧ c.memoria.SinDesbordes 1 ∧
      (c.idaYVuelta .insercion (fun _ _ ↦ True) 1 operacionesAjenas).any fun (_, c₃) ↦
        segmentoEn c₃.memoria.procesos 0 0 = some ⟨0, 5, 3, 0⟩) (by decide)
  obtain ⟨c₁, c₂, c₃, h, hfin⟩ := Corrida.exists_of_idaYVuelta hvuelta
  exact ⟨c, c₃, hlectura, of_decide_eq_true hfin,
    suspension_ida_y_vuelta .insercion 1 c c₁ c₂ c₃ hc hcompleta hsin h⟩

/-- A segment of `2 ^ 30 + 1` bytes and blocks of `3 * 2 ^ 30`: the block count wraps to zero, and
nothing goes to the file. -/
def corridaDesborde : Corrida :=
  { corridaInicial with memoria := { corridaInicial.memoria with config := ⟨0x40000001, none⟩ } }

def operacionesDesborde : List Operacion :=
  [.registrarMemoryStick ⟨1, 0x40000001, "", "", fun _ ↦ 0⟩ 5,
    .registrarSwap ⟨3, 0xC0000000, 0xC0000000, fun _ ↦ 0, [], by decide⟩, .crearProceso 1 [],
    .crearProceso 2 [], .solicitarSegmento 1 0 0x40000001, .escrituraMemoria 1 0 1 [7]]

/-- Another process writes where the bytes were and leaves. -/
theorem suspension_pierde_bytes :
    ¬ ∀ (qsort : Qsort) (pid : ℤ) (c c₁ c₂ c₃ : Corrida),
      Reachable (Corrida.paso qsort) Corrida.Inicial (fun _ _ ↦ True) c →
        (suspenderProceso c.memoria pid).1 = .completa →
          IdaYVuelta qsort (fun _ _ ↦ True) pid c c₁ c₂ c₃ →
            MismosBytes c.memoria c₃.memoria pid := by
  intro hclaim
  have hinicio : Reachable (Corrida.paso .insercion) Corrida.Inicial (fun _ _ ↦ True)
      corridaDesborde := .start ⟨rfl, rfl, rfl, rfl, rfl⟩
  obtain ⟨c, hc, hlectura, hdir, hcompleta, hvuelta⟩ := hinicio.exists_of_runAllowed
    operacionesDesborde
    (fun c ↦ (manejarLecturaMemoria c.memoria 1 0 1).1 = [.lecturaMemoria [7]] ∧
      c.memoria.Direccionable 1 0 ∧ (suspenderProceso c.memoria 1).1 = .completa ∧
      (c.idaYVuelta .insercion (fun _ _ ↦ True) 1
        [.solicitarSegmento 2 0 1, .escrituraMemoria 2 0 1 [9], .finalizarProceso 2]).any fun (_, c₃) ↦
          (manejarLecturaMemoria c₃.memoria 1 0 1).1 = [.lecturaMemoria [9]]) (by decide)
  obtain ⟨c₁, c₂, c₃, h, hlectura₃⟩ := Corrida.exists_of_idaYVuelta hvuelta
  have hbytes := hclaim .insercion 1 c c₁ c₂ c₃ hc hcompleta h
  obtain ⟨dato, hdato, hdato₃⟩ := hbytes.logicas 0 hdir
  have hsiete := hlectura.symm.trans hdato
  have hnueve := (of_decide_eq_true hlectura₃).symm.trans hdato₃
  simp only [List.cons.injEq, Mensaje.lecturaMemoria.injEq, and_true] at hsiete hnueve
  rw [← hsiete] at hnueve
  exact absurd hnueve (by decide)

/-- A resumption that leaks nothing found no bytes of the process in RAM. -/
theorem desSuspender_sinFuga {c c' : Corrida} {pid : ℤ}
    (h : Repartida False True [] c.memoria c.suspendidos)
    (hfin : desSuspenderProceso c.memoria pid = (.completa, c'.memoria))
    (hsusp : pid ∈ c.suspendidos)
    (hpart : Partition c'.memoria.ocupacion (sumaSticks c'.memoria.ram.tabla)) :
    c.SinFuga (.desSuspenderProceso pid) := by
  rcases desSuspenderProceso_cases h hfin nofun with
    ⟨hno, _⟩ | ⟨p, segmentos, libres, _, hp, _, _, htransferir, _, _, hhits⟩
  · exact absurd rfl hno
  have hdisp := transferirSwapARam_soloDispositivos segmentos
    (ponerSegmentos { c.memoria with bloquesLibres := libres } pid segmentos)
  rw [htransferir] at hdisp
  have hsuma : sumaSticks c'.memoria.ram.tabla = sumaSticks c.memoria.ram.tabla :=
    sumaSticks_congr hdisp.tabla.medidas
  intro q hq seg hseg hres
  obtain rfl : p = q := Option.some.inj (hp.symm.trans hq)
  by_contra hlimite
  have hfin := (h.segmentos_suspendido hp hsusp seg hseg hres).2
  have hbase : seg.base.toNat < sumaSticks c.memoria.ram.tabla := by
    have hpos : seg.limite.toNat ≠ 0 := fun hcero ↦ hlimite (UInt32.toNat_inj.mp hcero)
    omega
  have huna : hits c.memoria.ocupacion seg.base.toNat = _ := (h.cubre id).cover seg.base.toNat
  have huna' := hpart.cover seg.base.toNat
  rw [hsuma, if_pos hbase] at huna'
  rw [if_pos hbase] at huna
  have hsum := hhits seg.base.toNat
  exact hlimite (limite_eq_zero_of_hits (by omega) hseg hres)

/-- The round trip of a suspension that ran out of blocks or found no swap: the resumption leaves
every byte as it was and loses no memory exactly when it finds no bytes of the process in RAM. -/
theorem suspension_a_medias (qsort : Qsort) (pid : ℤ) (c c₁ c₂ c₃ : Corrida)
    (hc : Reachable (Corrida.paso qsort) Corrida.Inicial Corrida.SinFuga c)
    (hfin : (suspenderProceso c.memoria pid).1 = .sinBloques ∨
      (suspenderProceso c.memoria pid).1 = .sinSwap)
    (hsin : c.memoria.SinDesbordes pid)
    (h : IdaYVuelta qsort Corrida.SinFuga pid c c₁ c₂ c₃) :
    (MismosBytes c.memoria c₃.memoria pid ∧
      Partition c₃.memoria.ocupacion (sumaSticks c₃.memoria.ram.tabla)) ↔
        c₂.SinFuga (.desSuspenderProceso pid) := by
  obtain ⟨hinv, hswap⟩ := Repartida.alcanzable (fun _ _ ↦ Or.inr) hc
  have hno : (suspenderProceso c.memoria pid).1 ≠ .sinProceso := by
    rcases hfin with hfin | hfin <;> rw [hfin] <;> exact nofun
  obtain ⟨p, hp⟩ := suspenderProceso_encontrado hno
  obtain ⟨hinv₂, hret₂, _⟩ := h.retenido hinv (fun _ _ ↦ Or.inr) hp hswap (hsin p hp) hno
    (Or.inl trivial)
  obtain ⟨q, hq, _⟩ := hret₂.tabla
  have hcompleta := h.completa hq
  have hsusp : pid ∈ c₂.suspendidos := by
    obtain ⟨hpide, _⟩ := Corrida.paso_eq_some h.reanuda
    rcases hpide with hfin | ⟨hsusp, _⟩
    · rw [hcompleta] at hfin
      cases hfin
    · exact hsusp
  refine ⟨fun ⟨_, hpart⟩ ↦ desSuspender_sinFuga hinv₂ hcompleta hsusp hpart, fun hfuga ↦ ⟨?_, ?_⟩⟩
  · exact h.mismosBytes True hinv (fun _ _ ↦ Or.inr) hswap hsin hno (Or.inl trivial) fun _ ↦ hfuga
  · exact (hinv₂.paso (Or.inr hfuga) (Or.inl trivial) h.reanuda).cubre id

instance (c : Corrida) : (op : Operacion) → Decidable (c.SinFuga op)
  | .desSuspenderProceso pid => decidable_of_iff (∀ p ∈ procesosBuscar c.memoria.procesos pid,
      ∀ seg ∈ p.segmentos, seg.Residente → seg.limite = 0) Iff.rfl
  | .registrarMemoryStick _ _ | .registrarSwap _ | .crearProceso _ _ | .solicitarSegmento _ _ _
  | .eliminarSegmento _ _ | .finalizarProceso _ | .suspenderProceso _ | .obtenerEspacioLibre
  | .lecturaMemoria _ _ _ | .escrituraMemoria _ _ _ _ => inferInstanceAs (Decidable True)

/-- A process with an empty segment, suspended before the swap connects. -/
theorem suspension_a_medias_vacia :
    ∃ c c₃ : Corrida, (suspenderProceso c.memoria 1).1 = .sinSwap ∧
      segmentoEn c₃.memoria.procesos 0 0 = some ⟨0, 3, 0, 0⟩ ∧
        MismosBytes c.memoria c₃.memoria 1 ∧
          Partition c₃.memoria.ocupacion (sumaSticks c₃.memoria.ram.tabla) := by
  have hinicio : Reachable (Corrida.paso .insercion) Corrida.Inicial Corrida.SinFuga
      corridaInicial := .start corridaInicial_inicial
  obtain ⟨c, hc, hfin, hsin, hvuelta⟩ := hinicio.exists_of_runAllowed
    [.registrarMemoryStick stickDeOcho 5, .crearProceso 1 [], .crearProceso 2 [],
      .solicitarSegmento 1 0 0]
    (fun c ↦ (suspenderProceso c.memoria 1).1 = .sinSwap ∧ c.memoria.SinDesbordes 1 ∧
      (c.idaYVuelta .insercion Corrida.SinFuga 1
        [.registrarSwap swapDeOcho, .solicitarSegmento 2 0 3]).any fun (c₂, c₃) ↦
          c₂.SinFuga (.desSuspenderProceso 1) ∧
            segmentoEn c₃.memoria.procesos 0 0 = some ⟨0, 3, 0, 0⟩) (by decide)
  obtain ⟨c₁, c₂, c₃, h, hvuelta⟩ := Corrida.exists_of_idaYVuelta hvuelta
  obtain ⟨hfuga, hsegmento⟩ := of_decide_eq_true hvuelta
  exact ⟨c, c₃, hfin, hsegmento,
    (suspension_a_medias .insercion 1 c c₁ c₂ c₃ hc (Or.inr hfin) hsin h).mpr hfuga⟩

/-- Two blocks in the swap, and segments of three and two bytes: the second stays in RAM. -/
theorem suspension_a_medias_pierde :
    ¬ ∀ (qsort : Qsort) (pid : ℤ) (c c₁ c₂ c₃ : Corrida),
      Reachable (Corrida.paso qsort) Corrida.Inicial Corrida.SinFuga c →
        (suspenderProceso c.memoria pid).1 = .sinBloques ∨
            (suspenderProceso c.memoria pid).1 = .sinSwap →
          IdaYVuelta qsort Corrida.SinFuga pid c c₁ c₂ c₃ →
            MismosBytes c.memoria c₃.memoria pid ∧
              Partition c₃.memoria.ocupacion (sumaSticks c₃.memoria.ram.tabla) := by
  intro hclaim
  have hinicio : Reachable (Corrida.paso .insercion) Corrida.Inicial Corrida.SinFuga
      corridaInicial := .start corridaInicial_inicial
  obtain ⟨c, hc, hfin, hvuelta⟩ := hinicio.exists_of_runAllowed
    [.registrarMemoryStick stickDeOcho 5,
      .registrarSwap ⟨3, 2, 4, fun _ ↦ 0, [], by decide⟩, .crearProceso 1 [],
      .solicitarSegmento 1 0 3, .solicitarSegmento 1 1 2]
    (fun c ↦ (suspenderProceso c.memoria 1).1 = .sinBloques ∧
      (c.idaYVuelta .insercion Corrida.SinFuga 1 []).any fun (_, c₃) ↦
        sumaSticks c₃.memoria.ram.tabla = 8 ∧ hits c₃.memoria.ocupacion 3 = 0) (by decide)
  obtain ⟨c₁, c₂, c₃, h, hpierde⟩ := Corrida.exists_of_idaYVuelta hvuelta
  obtain ⟨hsuma, hhits⟩ := of_decide_eq_true hpierde
  have hcover := (hclaim .insercion 1 c c₁ c₂ c₃ hc (Or.inl hfin) h).2.cover 3
  rw [hsuma, hhits] at hcover
  simp at hcover

end PlugAndPlay.Memoria
