import PlugAndPlay.Memoria.Cpu
import PlugAndPlay.Memoria.RamEnRed

/-!
# RAM as one array

The sticks that register one after the other hold one array: the concatenation of their buffers.
Every transfer whose pieces arrive is one of this array, and no other.
-/

open PlugAndPlay.Library

namespace PlugAndPlay.Memoria

open Red (Recepcion)

/-! ## Registered sticks -/

/-- Registrations one after the other, each with the socket that its outbound connection gets. -/
def registrarSticks (m : KernelMemory) (sticks : List (StickNuevo × ℤ)) : KernelMemory :=
  sticks.foldl (fun m registro ↦ registrarMemoryStick m registro.1 registro.2) m

theorem Ram.Sana.registrarMemoryStick {m : KernelMemory} (h : m.ram.Sana) (stick : StickNuevo)
    {outSock : ℤ} (habierto : 0 ≤ outSock) : (registrarMemoryStick m stick outSock).ram.Sana := by
  unfold Memoria.registrarMemoryStick registrarInsertar conexionesAgregarStick
  by_cases hllena : maxMemorySticks ≤ m.ram.tabla.length
  · simp only [if_pos hllena]
    exact h
  · have hsocket : ¬ outSock = -1 := by omega
    simp only [if_neg hllena, registrarOutbound, if_neg hsocket, registrarBloque,
      conexionesStickSetOutboundSocket, ListModify.modify_concat]
    refine ⟨?_, ?_, h.sinCortes⟩
    · exact basesAcumuladas_append.mpr ⟨h.bases, rfl⟩
    · intro s hs
      rcases List.mem_append.mp hs with hs | hs
      · exact h.abiertos s hs
      · rw [List.mem_singleton.mp hs]
        exact habierto

theorem Ram.Sana.registrarSticks {m : KernelMemory} (h : m.ram.Sana)
    {sticks : List (StickNuevo × ℤ)} (habiertos : ∀ registro ∈ sticks, 0 ≤ registro.2) :
    (registrarSticks m sticks).ram.Sana := by
  induction sticks generalizing m with
  | nil => exact h
  | cons registro resto ih =>
    obtain ⟨hregistro, hresto⟩ := List.forall_mem_cons.mp habiertos
    exact ih (h.registrarMemoryStick registro.1 hregistro) hresto

/-! ## The array -/

/-- The concatenation of the sticks' buffers. -/
def contenido (tabla : List MemoryStick) : List UInt8 :=
  tabla.flatMap fun stick ↦ ByteMemory.slice stick.memoria 0 stick.tamanio.toNat

@[simp] theorem length_contenido (tabla : List MemoryStick) :
    (contenido tabla).length = sumaSticks tabla := by
  simp [contenido, sumaSticks, List.length_flatMap]

theorem ubicar_cons_of_not {stick : MemoryStick} {resto : List MemoryStick} {address : ℕ}
    (h : ¬ stick.Cubre address) :
    ubicar (stick :: resto) address = (ubicar resto address).map (· + 1) := by
  simp [ubicar, List.findIdx?_cons, h]

theorem plano_cons_of_not {stick : MemoryStick} {resto : List MemoryStick} {address : ℕ}
    (h : ¬ stick.Cubre address) : plano (stick :: resto) address = plano resto address := by
  unfold plano
  rw [ubicar_cons_of_not h]
  cases ubicar resto address <;> rfl

theorem plano_cons_of_cubre {stick : MemoryStick} {resto : List MemoryStick} {address : ℕ}
    (h : stick.Cubre address) :
    plano (stick :: resto) address = stick.memoria (address - stick.baseFisica.toNat) := by
  have hubicar : ubicar (stick :: resto) address = some 0 := by simp [ubicar, List.findIdx?_cons, h]
  exact plano_of_ubicar hubicar rfl

/-- The flat memory of registered sticks is the concatenation of their buffers. -/
theorem slice_plano {base : UInt32} {tabla : List MemoryStick} (hbases : BasesAcumuladas base tabla)
    (hopen : Alcanzables tabla) (htotal : base.toNat + sumaSticks tabla < 2 ^ 32) :
    ByteMemory.slice (plano tabla) base.toNat (sumaSticks tabla) = contenido tabla := by
  induction tabla generalizing base with
  | nil => rfl
  | cons stick resto ih =>
    have hsuma : sumaSticks (stick :: resto) = stick.tamanio.toNat + sumaSticks resto := by
      simp [sumaSticks]
    obtain ⟨hbase, hresto⟩ := hbases
    have habierto : 0 ≤ stick.outboundSocket := hopen stick List.mem_cons_self
    have hopenResto : Alcanzables resto := fun s hs ↦ hopen s (List.mem_cons_of_mem _ hs)
    have hsiguiente : (base + stick.tamanio).toNat = base.toNat + stick.tamanio.toNat :=
      toNat_add_of_lt (by omega)
    have hcabeza : ByteMemory.slice (plano (stick :: resto)) base.toNat stick.tamanio.toNat =
        ByteMemory.slice stick.memoria 0 stick.tamanio.toNat := by
      apply List.map_congr_left
      intro offset hoffset
      rw [List.mem_range] at hoffset
      have hcubre : stick.Cubre (base.toNat + offset) :=
        ⟨habierto, by rw [hbase]; omega, by rw [hbase, hsiguiente]; omega⟩
      rw [plano_cons_of_cubre hcubre, hbase]
      congr 1
      omega
    have hcola : ByteMemory.slice (plano (stick :: resto)) (base.toNat + stick.tamanio.toNat)
        (sumaSticks resto) = contenido resto := by
      rw [← ih hresto hopenResto (by omega), hsiguiente]
      apply ByteMemory.slice_congr
      intro address hle _
      apply plano_cons_of_not
      intro hcubre
      have hlt := hcubre.2.2
      rw [hbase, hsiguiente] at hlt
      omega
    rw [hsuma, ByteMemory.slice_add, hcabeza, hcola]
    rfl

/-- Registered and reachable sticks of less than `2 ^ 32` bytes, and no broken connection. -/
structure Ram.Plana (ram : Ram) : Prop extends ram.Sana where
  suma_lt : sumaSticks ram.tabla < 2 ^ 32

namespace Ram.Plana

variable {ram : Ram} (h : ram.Plana)
include h

theorem total_eq : ram.total = sumaSticks ram.tabla := by
  have hsuma : (sumaTamanios 0 ram.tabla).toNat = (0 : UInt32).toNat + sumaSticks ram.tabla :=
    toNat_sumaTamanios (by simpa using h.suma_lt)
  rwa [UInt32.toNat_zero, Nat.zero_add] at hsuma

theorem slice_eq : ByteMemory.slice (plano ram.tabla) 0 (sumaSticks ram.tabla) = contenido ram.tabla :=
  slice_plano h.bases h.abiertos (by simpa using h.suma_lt)

theorem leer {dirFisica tamanio : UInt32}
    (hdentro : dirFisica.toNat + tamanio.toNat ≤ sumaSticks ram.tabla) :
    memoryIoLeer ram dirFisica tamanio =
      (.ok (((contenido ram.tabla).drop dirFisica.toNat).take tamanio.toNat), ram) := by
  have htotal : dirFisica.toNat + tamanio.toNat ≤ ram.total := by rw [h.total_eq]; exact hdentro
  rw [memoryIoLeer_plano h.toSana htotal, ← h.slice_eq, ByteMemory.drop_slice (by omega),
    ByteMemory.take_slice (by omega), Nat.zero_add]

/-- The requests of a range that leaves RAM end at an address without stick. -/
theorem incompleta {dirFisica tamanio : UInt32} (hpos : 0 < tamanio.toNat)
    (hfuera : sumaSticks ram.tabla < dirFisica.toNat + tamanio.toNat) :
    (accesosIo tamanio.toNat ram.tabla dirFisica tamanio).2 = false := by
  by_contra hcompleta
  have hrestante : tamanio ≠ 0 := by
    intro hcero
    rw [hcero, UInt32.toNat_zero] at hpos
    omega
  have hle := accesosIo_completa_le tamanio.toNat h.bases h.suma_lt le_rfl hrestante
    (Bool.eq_true_of_not_eq_false hcompleta)
  omega

theorem escribir {dirFisica tamanio : UInt32} {datos : List UInt8}
    (hdentro : dirFisica.toNat + tamanio.toNat ≤ sumaSticks ram.tabla)
    (hdatos : tamanio.toNat ≤ datos.length) :
    ∃ despues, memoryIoEscribir ram dirFisica tamanio datos = (.ok (), despues) ∧
      MismaTabla despues.tabla ram.tabla ∧ despues.Plana ∧
      contenido despues.tabla = (contenido ram.tabla).take dirFisica.toNat ++ datos.take tamanio.toNat ++
        (contenido ram.tabla).drop (dirFisica.toNat + tamanio.toNat) := by
  have htotal : dirFisica.toNat + tamanio.toNat ≤ ram.total := by rw [h.total_eq]; exact hdentro
  obtain ⟨despues, heq, hescrita⟩ := memoryIoEscribir_plano h.toSana htotal hdatos
  have hsuma : sumaSticks despues.tabla = sumaSticks ram.tabla := hescrita.mismaTabla.sumaSticks
  have hplana : despues.Plana := ⟨hescrita.sana h.toSana, by rw [hsuma]; exact h.suma_lt⟩
  have hlargo : (datos.take tamanio.toNat).length = tamanio.toNat := by
    rw [List.length_take]
    omega
  refine ⟨despues, heq, hescrita.mismaTabla, hplana, ?_⟩
  have hinside : ByteMemory.slice (ByteMemory.overlay (plano ram.tabla) (0 + dirFisica.toNat)
      (datos.take tamanio.toNat)) 0 (sumaSticks ram.tabla) = _ :=
    ByteMemory.slice_overlay_inside (by rw [hlargo]; exact hdentro)
  rw [Nat.zero_add, hlargo, h.slice_eq] at hinside
  rw [← hplana.slice_eq, hsuma, funext hescrita.plano, hinside]

end Ram.Plana

/-! ## The array over the sockets -/

section EnRed

variable [Recepcion] {red : RamEnRed} {dirFisica tamanio : UInt32} {datos : List UInt8}

/-- A read inside RAM gives the bytes of the array when every piece arrives, and only then. -/
theorem RamEnRed.leer_iff (h : red.ram.Plana)
    (hdentro : dirFisica.toNat + tamanio.toNat ≤ sumaSticks red.ram.tabla) :
    memoryIoLeerRed red dirFisica tamanio =
        some (.ok (((contenido red.ram.tabla).drop dirFisica.toNat).take tamanio.toNat), red) ↔
      LecturaLlega red.ram.tabla red.rotos dirFisica tamanio := by
  constructor
  · intro hleida
    exact lecturaLlega_of_leerTramosRed tamanio.toNat hleida nofun
  · intro hllega
    rw [memoryIoLeerRed_eq h.sinCortes hllega, h.leer hdentro]

theorem RamEnRed.leer_fuera_iff (h : red.ram.Plana) (hpos : 0 < tamanio.toNat)
    (hfuera : sumaSticks red.ram.tabla < dirFisica.toNat + tamanio.toNat) :
    memoryIoLeerRed red dirFisica tamanio = some (.error .sinStick, red) ↔
      LecturaLlega red.ram.tabla red.rotos dirFisica tamanio := by
  constructor
  · intro hleida
    exact lecturaLlega_of_leerTramosRed tamanio.toNat hleida nofun
  · intro hllega
    have hfallo : memoryIoLeer red.ram dirFisica tamanio = (.error .sinStick, red.ram) :=
      leerTramos_sinCortes tamanio.toNat h.sinCortes (h.incompleta hpos hfuera)
    rw [memoryIoLeerRed_eq h.sinCortes hllega, hfallo]

/-- What a write inside RAM leaves when every piece arrives. -/
theorem RamEnRed.escribir (h : red.ram.Plana)
    (hdentro : dirFisica.toNat + tamanio.toNat ≤ sumaSticks red.ram.tabla)
    (hdatos : tamanio.toNat ≤ datos.length)
    (hllega : EscrituraLlega red.ram.tabla red.rotos dirFisica tamanio) :
    ∃ despues, memoryIoEscribirRed red dirFisica tamanio datos = some (.ok (), despues) ∧
      MismaTabla despues.ram.tabla red.ram.tabla ∧ despues.rotos = red.rotos ∧ despues.ram.Plana ∧
      contenido despues.ram.tabla = (contenido red.ram.tabla).take dirFisica.toNat ++
        datos.take tamanio.toNat ++ (contenido red.ram.tabla).drop (dirFisica.toNat + tamanio.toNat) := by
  obtain ⟨despues, heq, hforma, hplana, hcontenido⟩ := h.escribir hdentro hdatos
  refine ⟨⟨despues, red.rotos⟩, ?_, hforma, rfl, hplana, hcontenido⟩
  rw [memoryIoEscribirRed_eq h.sinCortes hllega, heq]

theorem RamEnRed.escribir_fuera_iff (h : red.ram.Plana) (hpos : 0 < tamanio.toNat)
    (hfuera : sumaSticks red.ram.tabla < dirFisica.toNat + tamanio.toNat) :
    (∃ despues, memoryIoEscribirRed red dirFisica tamanio datos = some (.error .sinStick, despues)) ↔
      EscrituraLlega red.ram.tabla red.rotos dirFisica tamanio := by
  constructor
  · rintro ⟨despues, hescrita⟩
    exact escrituraLlega_of_escribirTramosRed tamanio.toNat hescrita nofun
  · intro hllega
    have hfallo : (memoryIoEscribir red.ram dirFisica tamanio datos).1 = .error .sinStick :=
      escribirTramos_sinCortes tamanio.toNat h.sinCortes datos (h.incompleta hpos hfuera)
    exact ⟨_, by rw [memoryIoEscribirRed_eq h.sinCortes hllega, hfallo]⟩

end EnRed

/-! ## Termination -/

/-- The loop that starts at this address with these bytes left comes to its end. -/
inductive Termina (tabla : List MemoryStick) : UInt32 → UInt32 → Prop
  | fin (dirAct : UInt32) : Termina tabla dirAct 0
  | sinStick {dirAct restante : UInt32} (h : siguienteAcceso tabla dirAct restante = none) :
      Termina tabla dirAct restante
  | sigue {dirAct restante : UInt32} {acceso : Acceso}
      (h : siguienteAcceso tabla dirAct restante = some acceso)
      (hresto : Termina tabla (dirAct + acceso.bytes) (restante - acceso.bytes)) :
      Termina tabla dirAct restante

theorem termina_of_le (tabla : List MemoryStick) (pasos : ℕ) {dirAct restante : UInt32}
    (hpasos : restante.toNat ≤ pasos) : Termina tabla dirAct restante := by
  induction pasos generalizing dirAct restante with
  | zero =>
    have hcero : restante = 0 := UInt32.toNat_inj.mp (Nat.le_zero.mp hpasos)
    rw [hcero]
    exact .fin dirAct
  | succ pasos ih =>
    by_cases hcero : restante = 0
    · rw [hcero]
      exact .fin dirAct
    · cases hacceso : siguienteAcceso tabla dirAct restante with
      | none => exact .sinStick hacceso
      | some acceso =>
        obtain ⟨hpos, hle⟩ := siguienteAcceso_pos hacceso hcero
        have hresto : (restante - acceso.bytes).toNat = restante.toNat - acceso.bytes.toNat :=
          toNat_sub_of_le hle
        exact .sigue hacceso (ih (by omega))

/-! ## Any sequence of writes -/

/-- A write of the first `tamanio` bytes of a buffer. -/
structure EscrituraRam where
  dirFisica : UInt32
  tamanio : UInt32
  datos : List UInt8
deriving Repr, DecidableEq

/-- The write lies inside RAM and has its bytes. -/
structure EscrituraRam.Dentro (tabla : List MemoryStick) (e : EscrituraRam) : Prop where
  dentro : e.dirFisica.toNat + e.tamanio.toNat ≤ sumaSticks tabla
  datos : e.tamanio.toNat ≤ e.datos.length

/-- The array after the write. -/
def EscrituraRam.enArreglo (arreglo : List UInt8) (e : EscrituraRam) : List UInt8 :=
  arreglo.take e.dirFisica.toNat ++ e.datos.take e.tamanio.toNat ++
    arreglo.drop (e.dirFisica.toNat + e.tamanio.toNat)

section Escrituras

variable [Recepcion]

/-- The writes one after the other; nothing when one of them fails. -/
def escribirTodas (red : RamEnRed) : List EscrituraRam → Option RamEnRed
  | [] => some red
  | e :: resto =>
    match memoryIoEscribirRed red e.dirFisica e.tamanio e.datos with
    | some (.ok (), despues) => escribirTodas despues resto
    | _ => none

/-- Reads and writes of this RAM are those of one array, and what leaves it is refused, exactly as far as the pieces
arrive. -/
structure RamEnRed.ComoArreglo (red : RamEnRed) (arreglo : List UInt8) : Prop where
  contenido : contenido red.ram.tabla = arreglo
  lectura : ∀ dirFisica tamanio : UInt32, dirFisica.toNat + tamanio.toNat ≤ arreglo.length →
    (memoryIoLeerRed red dirFisica tamanio =
        some (.ok ((arreglo.drop dirFisica.toNat).take tamanio.toNat), red) ↔
      LecturaLlega red.ram.tabla red.rotos dirFisica tamanio)
  lecturaFuera : ∀ dirFisica tamanio : UInt32, 0 < tamanio.toNat →
    arreglo.length < dirFisica.toNat + tamanio.toNat →
      (memoryIoLeerRed red dirFisica tamanio = some (.error .sinStick, red) ↔
        LecturaLlega red.ram.tabla red.rotos dirFisica tamanio)
  escritura : ∀ e : EscrituraRam, e.Dentro red.ram.tabla →
    ((∃ despues, memoryIoEscribirRed red e.dirFisica e.tamanio e.datos = some (.ok (), despues) ∧
        Memoria.contenido despues.ram.tabla = e.enArreglo arreglo ∧
          MismaTabla despues.ram.tabla red.ram.tabla ∧ despues.rotos = red.rotos) ↔
      EscrituraLlega red.ram.tabla red.rotos e.dirFisica e.tamanio)
  escrituraFuera : ∀ (dirFisica tamanio : UInt32) (datos : List UInt8), 0 < tamanio.toNat →
    arreglo.length < dirFisica.toNat + tamanio.toNat →
      ((∃ despues, memoryIoEscribirRed red dirFisica tamanio datos = some (.error .sinStick, despues)) ↔
        EscrituraLlega red.ram.tabla red.rotos dirFisica tamanio)
  termina : ∀ dirFisica tamanio, Termina red.ram.tabla dirFisica tamanio

theorem RamEnRed.comoArreglo {red : RamEnRed} (h : red.ram.Plana) :
    red.ComoArreglo (Memoria.contenido red.ram.tabla) where
  contenido := rfl
  lectura := fun _ _ hdentro ↦ RamEnRed.leer_iff h (by rwa [length_contenido] at hdentro)
  lecturaFuera := fun _ _ hpos hfuera ↦ RamEnRed.leer_fuera_iff h hpos (by rwa [length_contenido] at hfuera)
  escritura := by
    intro e he
    constructor
    · rintro ⟨despues, hescrita, -⟩
      exact escrituraLlega_of_escribirTramosRed e.tamanio.toNat hescrita nofun
    · intro hllega
      obtain ⟨despues, heq, hforma, hrotos, -, hcontenido⟩ := RamEnRed.escribir h he.dentro he.datos hllega
      exact ⟨despues, heq, hcontenido, hforma, hrotos⟩
  escrituraFuera := fun _ _ _ hpos hfuera ↦
    RamEnRed.escribir_fuera_iff h hpos (by rwa [length_contenido] at hfuera)
  termina := fun _ _ ↦ termina_of_le _ _ le_rfl

/-- The writes are all done when their pieces arrive. -/
theorem RamEnRed.escribirTodas {red : RamEnRed} (h : red.ram.Plana) {escrituras : List EscrituraRam}
    (hdentro : ∀ e ∈ escrituras, e.Dentro red.ram.tabla)
    (hllegan : ∀ e ∈ escrituras, EscrituraLlega red.ram.tabla red.rotos e.dirFisica e.tamanio) :
    ∃ despues, escribirTodas red escrituras = some despues ∧ despues.ram.Plana ∧
      Memoria.contenido despues.ram.tabla =
        escrituras.foldl EscrituraRam.enArreglo (Memoria.contenido red.ram.tabla) := by
  induction escrituras generalizing red with
  | nil => exact ⟨red, rfl, h, rfl⟩
  | cons e resto ih =>
    obtain ⟨he, hresto⟩ := List.forall_mem_cons.mp hdentro
    obtain ⟨hllega, hllegan⟩ := List.forall_mem_cons.mp hllegan
    obtain ⟨medio, hmedio, hforma, hrotos, hplana, hcontenido⟩ :=
      RamEnRed.escribir h he.dentro he.datos hllega
    have hresto' : ∀ e ∈ resto, e.Dentro medio.ram.tabla := fun e he ↦
      ⟨by rw [hforma.sumaSticks]; exact (hresto e he).dentro, (hresto e he).datos⟩
    have hllegan' : ∀ e ∈ resto, EscrituraLlega medio.ram.tabla medio.rotos e.dirFisica e.tamanio := by
      intro e he
      rw [hrotos, hforma.escrituraLlega]
      exact hllegan e he
    obtain ⟨despues, hdespues, hplana', hcontenido'⟩ := ih hplana hresto' hllegan'
    refine ⟨despues, ?_, hplana', ?_⟩
    · rw [Memoria.escribirTodas, hmedio]
      exact hdespues
    · rw [hcontenido', hcontenido]
      rfl

theorem RamEnRed.llegan_of_escribirTodas {red despues : RamEnRed} (h : red.ram.Plana)
    {escrituras : List EscrituraRam} (hdentro : ∀ e ∈ escrituras, e.Dentro red.ram.tabla)
    (hescritas : Memoria.escribirTodas red escrituras = some despues) :
    ∀ e ∈ escrituras, EscrituraLlega red.ram.tabla red.rotos e.dirFisica e.tamanio := by
  induction escrituras generalizing red with
  | nil => exact nofun
  | cons e resto ih =>
    obtain ⟨he, hresto⟩ := List.forall_mem_cons.mp hdentro
    rw [Memoria.escribirTodas] at hescritas
    split at hescritas
    · rename_i medio hmedio
      have hllega : EscrituraLlega red.ram.tabla red.rotos e.dirFisica e.tamanio :=
        escrituraLlega_of_escribirTramosRed e.tamanio.toNat hmedio nofun
      obtain ⟨otro, hotro, hforma, hrotos, hplana, -⟩ := RamEnRed.escribir h he.dentro he.datos hllega
      obtain rfl : otro = medio := by
        rw [hotro] at hmedio
        exact congrArg Prod.snd (Option.some.inj hmedio)
      have hresto' : ∀ e ∈ resto, e.Dentro otro.ram.tabla := fun e he ↦
        ⟨by rw [hforma.sumaSticks]; exact (hresto e he).dentro, (hresto e he).datos⟩
      have hllegan := ih hplana hresto' hescritas
      refine List.forall_mem_cons.mpr ⟨hllega, fun e he ↦ ?_⟩
      rw [← hforma.escrituraLlega, ← hrotos]
      exact hllegan e he
    · cases hescritas

/-- Whatever sticks register, in whatever order and with whatever contents, RAM is the array of their
buffers, and after any writes the array with these writes, exactly as far as every piece of them arrives. -/
theorem ram_como_arreglo_iff (m : KernelMemory) (sticks : List (StickNuevo × ℤ))
    (escrituras : List EscrituraRam) (htabla : m.ram.tabla = []) (hcortes : m.ram.cortes = [])
    (habiertos : ∀ registro ∈ sticks, 0 ≤ registro.2)
    (htotal : sumaSticks (registrarSticks m sticks).ram.tabla < 2 ^ 32)
    (hdentro : ∀ e ∈ escrituras, e.Dentro (registrarSticks m sticks).ram.tabla) :
    (∃ red, escribirTodas ⟨(registrarSticks m sticks).ram, []⟩ escrituras = some red ∧
        red.ComoArreglo
          (escrituras.foldl EscrituraRam.enArreglo (contenido (registrarSticks m sticks).ram.tabla))) ↔
      ∀ e ∈ escrituras, EscrituraLlega (registrarSticks m sticks).ram.tabla [] e.dirFisica e.tamanio := by
  have hvacia : m.ram.Sana := ⟨by rw [htabla]; trivial, by rw [htabla]; exact nofun, hcortes⟩
  have hplana : (registrarSticks m sticks).ram.Plana := ⟨hvacia.registrarSticks habiertos, htotal⟩
  constructor
  · rintro ⟨red, hescritas, -⟩
    exact @RamEnRed.llegan_of_escribirTodas _ ⟨(registrarSticks m sticks).ram, []⟩ red hplana escrituras hdentro hescritas
  · intro hllegan
    obtain ⟨red, heq, hred, hcontenido⟩ :=
      @RamEnRed.escribirTodas _ ⟨(registrarSticks m sticks).ram, []⟩ hplana escrituras hdentro hllegan
    refine ⟨red, heq, ?_⟩
    rw [← hcontenido]
    exact RamEnRed.comoArreglo hred

end Escrituras

/-- Kernel Memory before any stick registers. -/
def sinSticks : KernelMemory := ⟨⟨1024, none⟩, [], [], ⟨[], [], 0⟩, Swap.desconectado⟩

theorem sana_sinSticks : sinSticks.ram.Sana := ⟨trivial, nofun, rfl⟩

section Muestra

local instance recepcionDeRamPlana : Recepcion := Red.recepcionTipica

/-- Two sticks, one of them empty, and a write over the boundary of the others. -/
theorem ram_como_arreglo_tres : (∃ red,
    escribirTodas ⟨(registrarSticks sinSticks [(⟨1, 3, "a", "1", fun _ ↦ 7⟩, 4),
      (⟨2, 0, "b", "2", fun _ ↦ 0⟩, 5), (⟨3, 2, "c", "3", fun _ ↦ 9⟩, 6)]).ram, []⟩
      [⟨2, 2, [1, 2]⟩] = some red ∧ red.ComoArreglo [7, 7, 1, 2, 9]) ↔
    ∀ e ∈ ([⟨2, 2, [1, 2]⟩] : List EscrituraRam),
      EscrituraLlega (registrarSticks sinSticks [(⟨1, 3, "a", "1", fun _ ↦ 7⟩, 4),
        (⟨2, 0, "b", "2", fun _ ↦ 0⟩, 5), (⟨3, 2, "c", "3", fun _ ↦ 9⟩, 6)]).ram.tabla [] e.dirFisica
          e.tamanio :=
  ram_como_arreglo_iff sinSticks [(⟨1, 3, "a", "1", fun _ ↦ 7⟩, 4), (⟨2, 0, "b", "2", fun _ ↦ 0⟩, 5),
    (⟨3, 2, "c", "3", fun _ ↦ 9⟩, 6)] [⟨2, 2, [1, 2]⟩] rfl rfl (by decide) (by decide)
    (by
      intro e he
      obtain rfl := List.mem_singleton.mp he
      exact ⟨by decide, by decide⟩)

/-- RAM of one stick, and its connection. -/
def unStick (tamanio : UInt32) : RamEnRed :=
  ⟨(registrarSticks sinSticks [(⟨1, tamanio, "a", "1", fun _ ↦ 7⟩, 4)]).ram, []⟩

/-- Of 131073 bytes in one stick nothing comes back, and 131061 bytes are never acknowledged; the largest stick that a
configuration file can ask for dies when it is read as a whole. -/
theorem transferencia_no_llega :
    memoryIoLeerRed (unStick 200000) 0 131073 = none ∧
      (∀ datos, memoryIoEscribirRed (unStick 200000) 0 131061 datos = none) ∧
        ∃ despues, memoryIoLeerRed (unStick 2147483647) 0 2147483647 = some (.error .desconectado, despues) :=
  ⟨rfl, fun _ ↦ rfl, _, rfl⟩

end Muestra

end PlugAndPlay.Memoria
