import PlugAndPlay.Cpu.DosCaminos

/-!
# The MMU over one flat memory

What `mmu_leer` and `mmu_escribir` do to the flat memory behind the sticks, with their messages. A CPU may
know fewer sticks than there are: those that were there at some earlier moment, in any order.
-/

open PlugAndPlay.Library

namespace PlugAndPlay.Cpu

open Memoria
open Red (CabeEnTrama Llega Recepcion largoPedidoEscritura)

/-! ## Transfers with their messages -/

section Mensajes

variable [Recepcion]

/-- The loop of `mmu_leer`. A stick that cannot frame its answer dies, which the CPU sees as a broken
connection; for an answer longer than its receive buffer the CPU waits for ever. -/
def leerPiezasRed (tabla : List MemoryStick) (sticks : List CpuStick) :
    List TraduccionFisica → Option (Except ResultadoExecute (List UInt8))
  | [] => some (.ok [])
  | pieza :: resto =>
    match cpuStickLeer tabla sticks pieza with
    | .falla => some (.error .error)
    | .espera => none
    | .datos bytes =>
      if ¬ CabeEnTrama pieza.bytesEnStick.toNat then some (.error .error)
      else if Llega pieza.bytesEnStick.toNat then
        (leerPiezasRed tabla sticks resto).map fun leido ↦ leido.map (bytes ++ ·)
      else none

/-- `mmu_leer`; nothing when it waits for ever. -/
def mmuLeerRed (segmentMaxSize : UInt32) (tabla : List MemoryStick) (sticks : List CpuStick)
    (contexto : Contexto) (dirLogica tam : UInt32) : Option (Except ResultadoExecute (List UInt8)) :=
  match mmuTraducirDirLogica segmentMaxSize sticks contexto dirLogica tam with
  | none => some (.error .segFault)
  | some (_, piezas) => leerPiezasRed tabla sticks piezas

/-- The loop of `mmu_escribir`; nothing when the CPU itself dies building a frame, or waits for ever for the
acknowledgement of one that the stick cannot hold. -/
def escribirPiezasRed (sticks : List CpuStick) :
    List TraduccionFisica → List MemoryStick → List UInt8 →
      Option (ResultadoExecute × List MemoryStick)
  | [], tabla, _ => some (.continuar, tabla)
  | pieza :: resto, tabla, datos =>
    match sticks[pieza.stickIndex]? with
    | none => some (.error, tabla)
    | some entrada =>
      if entrada.socket = -1 ∨ tabla[entrada.proceso]?.isNone then some (.error, tabla)
      else if Llega (largoPedidoEscritura + pieza.bytesEnStick.toNat) then
        escribirPiezasRed sticks resto (tabla.modify entrada.proceso fun stick ↦
          stick.manejarEscritura pieza.dirFisica pieza.bytesEnStick datos)
          (datos.drop pieza.bytesEnStick.toNat)
      else none

/-- `mmu_escribir`. -/
def mmuEscribirRed (segmentMaxSize : UInt32) (tabla : List MemoryStick) (sticks : List CpuStick)
    (contexto : Contexto) (dirLogica : UInt32) (datos : List UInt8) (tam : UInt32) :
    Option (ResultadoExecute × List MemoryStick) :=
  match mmuTraducirDirLogica segmentMaxSize sticks contexto dirLogica tam with
  | none => some (.segFault, tabla)
  | some (_, piezas) => escribirPiezasRed sticks piezas tabla datos

/-- What a read of these requests ends with, when the sticks hold these bytes. -/
def finDeLectura (datos : List UInt8) : List Acceso → Option (Except ResultadoExecute (List UInt8))
  | [] => some (.ok datos)
  | acceso :: resto =>
    if ¬ CabeEnTrama acceso.bytes.toNat then some (.error .error)
    else if Llega acceso.bytes.toNat then finDeLectura datos resto
    else none

theorem finDeLectura_of_llega (datos : List UInt8) {lista : List Acceso}
    (h : ∀ acceso ∈ lista, Llega acceso.bytes.toNat) : finDeLectura datos lista = some (.ok datos) := by
  induction lista with
  | nil => rfl
  | cons acceso resto ih =>
    obtain ⟨hacceso, hresto⟩ := List.forall_mem_cons.mp h
    rw [finDeLectura, if_neg (not_not_intro hacceso.cabe), if_pos hacceso]
    exact ih hresto

/-- A piece that does not arrive ends the read. -/
theorem finDeLectura_of_not (datos : List UInt8) {lista : List Acceso}
    (h : ¬ ∀ acceso ∈ lista, Llega acceso.bytes.toNat) :
    finDeLectura datos lista = none ∨ finDeLectura datos lista = some (.error .error) := by
  induction lista with
  | nil => exact absurd nofun h
  | cons acceso resto ih =>
    rw [finDeLectura]
    by_cases hcabe : CabeEnTrama acceso.bytes.toNat
    · rw [if_neg (not_not_intro hcabe)]
      by_cases hllega : Llega acceso.bytes.toNat
      · rw [if_pos hllega]
        exact ih fun hresto ↦ h (List.forall_mem_cons.mpr ⟨hllega, hresto⟩)
      · rw [if_neg hllega]
        exact Or.inl rfl
    · rw [if_pos hcabe]
      exact Or.inr rfl

theorem finDeLectura_eq_ok {datos leidos : List UInt8} {lista : List Acceso}
    (h : finDeLectura datos lista = some (.ok leidos)) : leidos = datos := by
  by_cases hllegan : ∀ acceso ∈ lista, Llega acceso.bytes.toNat
  · rw [finDeLectura_of_llega datos hllegan] at h
    cases h
    rfl
  · obtain hnada | herror := finDeLectura_of_not datos hllegan
    · rw [hnada] at h
      cases h
    · rw [herror] at h
      cases h

theorem finDeLectura_ne_segFault (datos : List UInt8) (lista : List Acceso) :
    finDeLectura datos lista ≠ some (.error .segFault) := by
  by_cases hllegan : ∀ acceso ∈ lista, Llega acceso.bytes.toNat
  · rw [finDeLectura_of_llega datos hllegan]
    nofun
  · obtain hnada | herror := finDeLectura_of_not datos hllegan
    · rw [hnada]
      nofun
    · rw [herror]
      nofun

/-- More bytes in front change what is read only. -/
theorem map_finDeLectura (bytes datos : List UInt8) (lista : List Acceso) :
    (finDeLectura datos lista).map (fun leido ↦ leido.map (bytes ++ ·)) =
      finDeLectura (bytes ++ datos) lista := by
  induction lista with
  | nil => rfl
  | cons acceso resto ih =>
    unfold finDeLectura
    split
    · rfl
    · split
      · exact ih
      · rfl

/-- Pieces that can be read are read as far as the answers arrive. -/
theorem leerPiezasRed_eq {tabla : List MemoryStick} {sticks : List CpuStick} {piezas : List TraduccionFisica}
    {lista : List Acceso} {datos : List UInt8}
    (hmapa : piezas.map (TraduccionFisica.acceso sticks) = lista.map some)
    (h : leerPiezas tabla sticks piezas = some (.ok datos)) :
    leerPiezasRed tabla sticks piezas = finDeLectura datos lista := by
  induction piezas generalizing lista datos with
  | nil =>
    obtain rfl : lista = [] := List.map_eq_nil_iff.mp hmapa.symm
    exact h
  | cons pieza resto ih =>
    cases lista with
    | nil => cases hmapa
    | cons acceso accesos =>
      obtain ⟨hacceso, hresto⟩ := List.cons.inj hmapa
      obtain ⟨entrada, -, rfl⟩ := Option.map_eq_some_iff.mp hacceso
      unfold leerPiezas at h
      unfold leerPiezasRed finDeLectura
      cases hlee : cpuStickLeer tabla sticks pieza with
      | falla =>
        rw [hlee] at h
        cases h
      | espera =>
        rw [hlee] at h
        cases h
      | datos bytes =>
        simp only [hlee] at h ⊢
        obtain ⟨leido, hleido, hcola⟩ := Option.map_eq_some_iff.mp h
        cases leido with
        | error fallo => cases hcola
        | ok cola =>
          obtain rfl := Except.ok.inj hcola
          rw [ih hresto hleido, map_finDeLectura]

/-- Pieces that are all written are written when all of their requests arrive. -/
theorem escribirPiezasRed_eq {tabla : List MemoryStick} {sticks : List CpuStick}
    {piezas : List TraduccionFisica} {datos : List UInt8}
    (h : (escribirPiezas sticks piezas tabla datos).1 = .continuar) :
    escribirPiezasRed sticks piezas tabla datos =
      if ∀ pieza ∈ piezas, Llega (largoPedidoEscritura + pieza.bytesEnStick.toNat) then
        some (escribirPiezas sticks piezas tabla datos)
      else none := by
  induction piezas generalizing tabla datos with
  | nil =>
    rw [if_pos (by simp)]
    rfl
  | cons pieza resto ih =>
    unfold escribirPiezas at h
    unfold escribirPiezasRed escribirPiezas
    cases hentrada : sticks[pieza.stickIndex]? with
    | none =>
      rw [hentrada] at h
      cases h
    | some entrada =>
      simp only [hentrada] at h ⊢
      by_cases hno : entrada.socket = -1 ∨ tabla[entrada.proceso]?.isNone = true
      · rw [if_pos hno] at h
        cases h
      · rw [if_neg hno] at h
        have hcons : (∀ otra ∈ pieza :: resto,
              Llega (largoPedidoEscritura + otra.bytesEnStick.toNat)) ↔
            Llega (largoPedidoEscritura + pieza.bytesEnStick.toNat) ∧
              ∀ otra ∈ resto, Llega (largoPedidoEscritura + otra.bytesEnStick.toNat) :=
          List.forall_mem_cons
        rw [if_neg hno, if_neg hno, ih h]
        by_cases hpieza : Llega (largoPedidoEscritura + pieza.bytesEnStick.toNat)
        · by_cases hresto : ∀ otra ∈ resto,
              Llega (largoPedidoEscritura + otra.bytesEnStick.toNat)
          · rw [if_pos hpieza, if_pos hresto, if_pos (hcons.mpr ⟨hpieza, hresto⟩)]
          · rw [if_pos hpieza, if_neg hresto, if_neg fun h ↦ hresto (hcons.mp h).2]
        · rw [if_neg hpieza, if_neg fun h ↦ hpieza (hcons.mp h).1]

end Mensajes

/-! ## Tables that grew -/

/-- Reachable sticks with accumulated bases and less than `2 ^ 32` bytes. -/
structure TablaPlana (tabla : List MemoryStick) : Prop where
  bases : BasesAcumuladas 0 tabla
  abiertos : Alcanzables tabla
  suma_lt : sumaSticks tabla < 2 ^ 32

/-- A table as RAM without broken connections. -/
def ramDe (tabla : List MemoryStick) : Ram := ⟨tabla, [], 0⟩

theorem tablaPlana_of_plana {ram : Ram} (h : ram.Plana) : TablaPlana ram.tabla :=
  ⟨h.bases, h.abiertos, h.suma_lt⟩

namespace TablaPlana

variable {tabla viejos nuevos : List MemoryStick}

theorem ramDe (h : TablaPlana tabla) : (ramDe tabla).Plana := ⟨⟨h.bases, h.abiertos, rfl⟩, h.suma_lt⟩

theorem of_mismaTabla (h : TablaPlana tabla) {otra : List MemoryStick} (hmisma : MismaTabla otra tabla) :
    TablaPlana otra :=
  ⟨(hmisma.basesAcumuladas 0).mpr h.bases, hmisma.alcanzables.mpr h.abiertos,
    by rw [hmisma.sumaSticks]; exact h.suma_lt⟩

end TablaPlana

theorem basesAcumuladas_viejos {base : UInt32} {viejos nuevos : List MemoryStick}
    (h : BasesAcumuladas base (viejos ++ nuevos)) : BasesAcumuladas base viejos := by
  induction viejos generalizing base with
  | nil => trivial
  | cons stick resto ih => exact ⟨h.1, ih h.2⟩

theorem sumaSticks_append (viejos nuevos : List MemoryStick) :
    sumaSticks (viejos ++ nuevos) = sumaSticks viejos + sumaSticks nuevos := by
  simp [sumaSticks]

theorem TablaPlana.viejos {viejos nuevos : List MemoryStick} (h : TablaPlana (viejos ++ nuevos)) :
    TablaPlana viejos where
  bases := basesAcumuladas_viejos h.bases
  abiertos := fun stick hstick ↦ h.abiertos stick (List.mem_append_left _ hstick)
  suma_lt := by
    have hsuma := h.suma_lt
    rw [sumaSticks_append] at hsuma
    omega

theorem ubicar_viejos {viejos nuevos : List MemoryStick} {address idx : ℕ}
    (h : ubicar viejos address = some idx) : ubicar (viejos ++ nuevos) address = some idx := by
  unfold ubicar at h ⊢
  rw [List.findIdx?_append, h]
  rfl

/-- The old sticks hold what they held. -/
theorem plano_viejos {viejos : List MemoryStick} (hplana : TablaPlana viejos)
    (nuevos : List MemoryStick) {address : ℕ} (h : address < sumaSticks viejos) :
    plano (viejos ++ nuevos) address = plano viejos address := by
  have htotal : address < (sumaTamanios 0 viejos).toNat := by
    rw [toNat_sumaTamanios (by simpa using hplana.suma_lt)]
    simpa using h
  obtain ⟨idx, stick, hget, hcubre, hrango, hubicar⟩ := ubicar_tramo hplana.bases hplana.abiertos
    (Nat.le_refl _) (Nat.zero_le address) htotal
  have hfin : address < stick.baseFisica.toNat + stick.tamanio.toNat := by
    rw [← toNat_add_of_lt hrango]
    exact hcubre.2.2
  have hdentro : ubicar viejos address = some idx := hubicar address le_rfl hfin
  have hotro : (viejos ++ nuevos)[idx]? = some stick := by
    rw [List.getElem?_append_left (List.getElem?_eq_some_iff.mp hget).1]
    exact hget
  rw [plano_of_ubicar hdentro hget, plano_of_ubicar (ubicar_viejos hdentro) hotro]

/-- A transfer inside the old sticks makes the same requests. -/
theorem accesosIo_viejos (pasos : ℕ) {viejos nuevos : List MemoryStick} {dir tam : UInt32}
    (h : (accesosIo pasos viejos dir tam).2 = true) :
    accesosIo pasos (viejos ++ nuevos) dir tam = accesosIo pasos viejos dir tam := by
  induction pasos generalizing dir tam with
  | zero => rfl
  | succ pasos ih =>
    unfold accesosIo at h ⊢
    by_cases hcero : tam = 0
    · rw [if_pos hcero, if_pos hcero]
    · rw [if_neg hcero] at h
      rw [if_neg hcero, if_neg hcero]
      cases hacceso : siguienteAcceso viejos dir tam with
      | none =>
        rw [hacceso] at h
        cases h
      | some acceso =>
        have hmismo : siguienteAcceso (viejos ++ nuevos) dir tam = some acceso := by
          unfold siguienteAcceso at hacceso ⊢
          rw [conexionesBuscarStickPorDir_eq] at hacceso ⊢
          cases hubicar : ubicar viejos dir.toNat with
          | none =>
            rw [hubicar] at hacceso
            cases hacceso
          | some idx =>
            obtain ⟨stick, hget, -⟩ := cubre_of_ubicar hubicar
            simp only [hubicar, hget] at hacceso
            rw [ubicar_viejos hubicar]
            simp only [List.getElem?_append_left (List.getElem?_eq_some_iff.mp hget).1, hget, hacceso]
        simp only [hacceso] at h
        simp only [hmismo, ih h]

section Piezas

variable {sticks : List CpuStick} {viejos : List MemoryStick}
  (hconocidos : ∀ entrada ∈ sticks, entrada.proceso < viejos.length) (nuevos : List MemoryStick)
include hconocidos

theorem leerPiezasRed_viejos [Recepcion] (piezas : List TraduccionFisica) :
    leerPiezasRed (viejos ++ nuevos) sticks piezas = leerPiezasRed viejos sticks piezas := by
  induction piezas with
  | nil => rfl
  | cons pieza resto ih =>
    have hlee : cpuStickLeer (viejos ++ nuevos) sticks pieza = cpuStickLeer viejos sticks pieza := by
      unfold cpuStickLeer
      cases hentrada : sticks[pieza.stickIndex]? with
      | none => rfl
      | some entrada =>
        simp only [List.getElem?_append_left (hconocidos entrada (List.mem_of_getElem? hentrada))]
    simp only [leerPiezasRed, hlee, ih]

theorem escribirPiezasRed_viejos [Recepcion] (piezas : List TraduccionFisica) (datos : List UInt8) :
    escribirPiezasRed sticks piezas (viejos ++ nuevos) datos =
      (escribirPiezasRed sticks piezas viejos datos).map fun r ↦ (r.1, r.2 ++ nuevos) := by
  induction piezas generalizing viejos datos with
  | nil => rfl
  | cons pieza resto ih =>
    unfold escribirPiezasRed
    cases hentrada : sticks[pieza.stickIndex]? with
    | none => rfl
    | some entrada =>
      have hlt := hconocidos entrada (List.mem_of_getElem? hentrada)
      simp only [List.getElem?_append_left hlt, ListModify.modify_append_left hlt]
      split
      · rfl
      · split
        · exact ih (by simpa using hconocidos) _
        · rfl

end Piezas

/-! ## Requests that do not wrap -/

/-- Where a request lies that stays inside its segment. -/
def direccionPropia (segmentMaxSize : UInt32) (segmentos : List Segmento) (dirLogica tam : UInt32) :
    Option UInt32 :=
  match segmentos.find? fun seg ↦ seg.id = dirLogica / segmentMaxSize with
  | none => none
  | some seg =>
    if (dirLogica % segmentMaxSize).toNat + tam.toNat ≤ seg.limite.toNat then
      some (seg.base + dirLogica % segmentMaxSize)
    else none

/-- Where the CPU takes a request: it also accepts one whose end wraps into the limit, when its start wraps
as well. -/
def direccionAlcanzada (segmentMaxSize : UInt32) (segmentos : List Segmento) (dirLogica tam : UInt32) :
    Option UInt32 :=
  match segmentos.find? fun seg ↦ seg.id = dirLogica / segmentMaxSize with
  | none => none
  | some seg =>
    if (dirLogica % segmentMaxSize).toNat + tam.toNat ≤ seg.limite.toNat ∨
        2 ^ 32 ≤ (dirLogica % segmentMaxSize).toNat + tam.toNat ∧
          (dirLogica % segmentMaxSize).toNat + tam.toNat ≤ 2 ^ 32 + seg.limite.toNat ∧
            2 ^ 32 ≤ seg.base.toNat + (dirLogica % segmentMaxSize).toNat then
      some (seg.base + dirLogica % segmentMaxSize)
    else none

/-- The CPU reaches what stays inside its segment. -/
theorem direccionAlcanzada_of_propia {segmentMaxSize dirLogica tam dir : UInt32} {segmentos : List Segmento}
    (h : direccionPropia segmentMaxSize segmentos dirLogica tam = some dir) :
    direccionAlcanzada segmentMaxSize segmentos dirLogica tam = some dir := by
  unfold direccionPropia at h
  unfold direccionAlcanzada
  cases hbusca : segmentos.find? fun seg ↦ seg.id = dirLogica / segmentMaxSize with
  | none =>
    rw [hbusca] at h
    cases h
  | some seg =>
    simp only [hbusca] at h ⊢
    split at h
    next hcabe =>
      rw [if_pos (Or.inl hcabe)]
      exact h
    next => cases h

theorem direccionAlcanzada_eq {segmentMaxSize dirLogica tam : UInt32} {segmentos : List Segmento}
    (hsin : SinDesbordeCpu segmentMaxSize segmentos dirLogica tam) :
    direccionAlcanzada segmentMaxSize segmentos dirLogica tam =
      direccionPropia segmentMaxSize segmentos dirLogica tam := by
  unfold direccionAlcanzada direccionPropia
  cases hbusca : segmentos.find? fun seg ↦ seg.id = dirLogica / segmentMaxSize with
  | none => rfl
  | some seg =>
    have hcaso := hsin seg hbusca
    apply if_congr _ rfl rfl
    omega

/-- The addresses of the segments. -/
def EnSegmentos (segmentos : List Segmento) (address : ℕ) : Prop :=
  ∃ seg ∈ segmentos, seg.base.toNat ≤ address ∧ address < seg.base.toNat + seg.limite.toNat

theorem direccionPropia_enSegmentos {segmentMaxSize dirLogica tam dir : UInt32}
    {segmentos : List Segmento} {tabla : List MemoryStick} (hsuma : sumaSticks tabla < 2 ^ 32)
    (hresidentes : Residentes tabla segmentos)
    (h : direccionPropia segmentMaxSize segmentos dirLogica tam = some dir) :
    dir.toNat + tam.toNat ≤ sumaSticks tabla ∧
      ∀ address, dir.toNat ≤ address → address < dir.toNat + tam.toNat →
        EnSegmentos segmentos address := by
  unfold direccionPropia at h
  cases hbusca : segmentos.find? fun seg ↦ seg.id = dirLogica / segmentMaxSize with
  | none =>
    rw [hbusca] at h
    cases h
  | some seg =>
    simp only [hbusca] at h
    split at h
    · rename_i hcabe
      obtain rfl := Option.some.inj h
      have hmem := List.mem_of_find?_eq_some hbusca
      have hram := (hresidentes seg hmem).2
      have hdir : (seg.base + dirLogica % segmentMaxSize).toNat =
          seg.base.toNat + (dirLogica % segmentMaxSize).toNat := toNat_add_of_lt (by omega)
      rw [hdir]
      refine ⟨by omega, fun address hle hlt ↦ ⟨seg, hmem, by omega, by omega⟩⟩
    · cases h

theorem MismosSticks.abiertos {sticks : List CpuStick} {tabla : List MemoryStick}
    (h : MismosSticks sticks tabla) : ∀ entrada ∈ sticks, entrada.socket ≠ -1 := by
  intro entrada hentrada
  obtain ⟨_, _, _, _, hsocket⟩ := h.fiel entrada hentrada
  exact hsocket

/-- The pieces are as long as the requests they stand for. -/
theorem piezas_accesos {sticks : List CpuStick} {piezas : List TraduccionFisica} {lista : List Acceso}
    (hmapa : piezas.map (TraduccionFisica.acceso sticks) = lista.map some) (P : UInt32 → Prop) :
    (∀ pieza ∈ piezas, P pieza.bytesEnStick) ↔ ∀ acceso ∈ lista, P acceso.bytes := by
  induction piezas generalizing lista with
  | nil =>
    obtain rfl : lista = [] := List.map_eq_nil_iff.mp hmapa.symm
    simp
  | cons pieza resto ih =>
    cases lista with
    | nil => cases hmapa
    | cons acceso accesos =>
      obtain ⟨hacceso, hresto⟩ := List.cons.inj hmapa
      obtain ⟨entrada, -, rfl⟩ := Option.map_eq_some_iff.mp hacceso
      rw [List.forall_mem_cons, List.forall_mem_cons, ih hresto]

section Traducidas

variable [Recepcion] {tabla : List MemoryStick} {sticks : List CpuStick} {contexto : Contexto}
  {segmentMaxSize dirLogica tam dir : UInt32} {piezas : List TraduccionFisica}
  (hplana : TablaPlana tabla) (hsticks : MismosSticks sticks tabla)
  (hpiezas : mmuTraducirDirLogica segmentMaxSize sticks contexto dirLogica tam = some (dir, piezas))
  (hmapa : piezas.map (TraduccionFisica.acceso sticks) = (accesos tabla dir tam).1.map some)
  (hdentro : dir.toNat + tam.toNat ≤ sumaSticks tabla)
include hplana hsticks hpiezas hmapa hdentro

/-- An accepted read returns the bytes of the flat memory. -/
theorem mmuLeerRed_traducida :
    mmuLeerRed segmentMaxSize tabla sticks contexto dirLogica tam =
      finDeLectura (ByteMemory.slice (plano tabla) dir.toNat tam.toNat) (accesos tabla dir tam).1 := by
  have htotal : dir.toNat + tam.toNat ≤ (ramDe tabla).total := by
    rw [hplana.ramDe.total_eq]
    exact hdentro
  have hcompleta : (accesos tabla dir tam).2 = true :=
    hplana.ramDe.toSana.accesosIo_completa _ htotal
  obtain ⟨datos, hdatos, hleer⟩ := @memoryIoLeer_servir (ramDe tabla) rfl dir tam hcompleta
  have hplano := memoryIoLeer_plano hplana.ramDe.toSana htotal
  obtain rfl : datos = ByteMemory.slice (plano tabla) dir.toNat tam.toNat :=
    Except.ok.inj (congrArg Prod.fst (hleer.symm.trans hplano))
  have hleida : leerPiezas tabla sticks piezas =
      some (.ok (ByteMemory.slice (plano tabla) dir.toNat tam.toNat)) :=
    leerPiezas_eq hsticks.abiertos hmapa hdatos
  simp only [mmuLeerRed, hpiezas]
  exact leerPiezasRed_eq hmapa hleida

/-- An accepted write goes to the bytes of the flat memory. -/
theorem mmuEscribirRed_traducida {datos : List UInt8} (hdatos : tam.toNat ≤ datos.length) :
    (EscrituraLlega tabla [] dir tam → ∃ despues,
      mmuEscribirRed segmentMaxSize tabla sticks contexto dirLogica datos tam =
        some (.continuar, despues) ∧ MismaTabla despues tabla ∧
      plano despues = ByteMemory.overlay (plano tabla) dir.toNat (datos.take tam.toNat)) ∧
    (¬ EscrituraLlega tabla [] dir tam →
      mmuEscribirRed segmentMaxSize tabla sticks contexto dirLogica datos tam = none) := by
  have htotal : dir.toNat + tam.toNat ≤ (ramDe tabla).total := by
    rw [hplana.ramDe.total_eq]
    exact hdentro
  have hcompleta : (accesos tabla dir tam).2 = true :=
    hplana.ramDe.toSana.accesosIo_completa _ htotal
  obtain ⟨despues, hescribe, hescrita⟩ :=
    memoryIoEscribir_plano hplana.ramDe.toSana htotal hdatos
  have hservir := @memoryIoEscribir_servir (ramDe tabla) rfl dir tam datos hcompleta
  have htabla : servirEscrituras tabla (accesos tabla dir tam).1 datos = despues.tabla :=
    congrArg Ram.tabla (congrArg Prod.snd (hservir.symm.trans hescribe))
  have hpartes : escribirPiezas sticks piezas tabla datos =
      (.continuar, servirEscrituras tabla (accesos tabla dir tam).1 datos) := by
    apply escribirPiezas_eq hsticks.abiertos hmapa
    intro acceso hacceso
    obtain ⟨stick, hget, -⟩ := accesosIo_dentro _ _ _ _ acceso hacceso
    exact (List.getElem?_eq_some_iff.mp hget).1
  have hllegan := piezas_accesos hmapa fun bytes ↦ Llega (largoPedidoEscritura + bytes.toNat)
  rw [← escrituraLlega_iff] at hllegan
  simp only [mmuEscribirRed, hpiezas]
  rw [escribirPiezasRed_eq (by rw [hpartes]), hpartes, htabla]
  constructor
  · intro htodas
    rw [if_pos (hllegan.mpr htodas)]
    exact ⟨despues.tabla, rfl, hescrita.mismaTabla, funext hescrita.plano⟩
  · intro hno
    exact if_neg fun htodas ↦ hno (hllegan.mp htodas)

end Traducidas

section Conocidos

variable [Recepcion] {tabla : List MemoryStick} {sticks : List CpuStick} {contexto : Contexto}
  {segmentMaxSize dirLogica tam : UInt32} (hplana : TablaPlana tabla)
  (hsticks : MismosSticks sticks tabla) (hresidentes : Residentes tabla contexto.tablaSegmentos)
include hplana hsticks hresidentes

omit [Recepcion] in
/-- The CPU accepts the requests that stay inside their segment, and those that wrap twice. -/
theorem mmuTraducirDirLogica_alcanzada :
    match direccionAlcanzada segmentMaxSize contexto.tablaSegmentos dirLogica tam with
    | none => mmuTraducirDirLogica segmentMaxSize sticks contexto dirLogica tam = none
    | some dir =>
      dir.toNat + tam.toNat ≤ sumaSticks tabla ∧
      ∃ piezas, mmuTraducirDirLogica segmentMaxSize sticks contexto dirLogica tam =
        some (dir, piezas) ∧
        piezas.map (TraduccionFisica.acceso sticks) = (accesos tabla dir tam).1.map some := by
  have hsuma := hplana.suma_lt
  simp only [direccionAlcanzada, mmuTraducirDirLogica, mmuTraducir, buscarSegmento]
  cases hbusca : contexto.tablaSegmentos.find? fun seg ↦ seg.id = dirLogica / segmentMaxSize with
  | none => rfl
  | some seg =>
    have hram := (hresidentes seg (List.mem_of_find?_eq_some hbusca)).2
    have hpiezas := distribuir_accesos hsticks hplana.bases hplana.abiertos hplana.suma_lt tam.toNat
      (seg.base + dirLogica % segmentMaxSize) tam
    have hvalor := (dirLogica % segmentMaxSize).toNat_lt
    have htam := tam.toNat_lt
    have hacepta : (seg.base + dirLogica % segmentMaxSize).toNat + tam.toNat ≤ sumaSticks tabla →
        (seg.base + dirLogica % segmentMaxSize).toNat + tam.toNat ≤ sumaSticks tabla ∧
        ∃ piezas, (distribuir tam.toNat sticks (seg.base + dirLogica % segmentMaxSize) tam).map
            (seg.base + dirLogica % segmentMaxSize, ·) =
          some (seg.base + dirLogica % segmentMaxSize, piezas) ∧
          piezas.map (TraduccionFisica.acceso sticks) =
            (accesos tabla (seg.base + dirLogica % segmentMaxSize) tam).1.map some := by
      intro hdentro
      have hcompleta : (accesos tabla (seg.base + dirLogica % segmentMaxSize) tam).2 = true := by
        apply hplana.ramDe.toSana.accesosIo_completa
        rw [hplana.ramDe.total_eq]
        exact hdentro
      obtain ⟨hfalta, -⟩ | ⟨-, piezas, hdistribuir, hmapa⟩ := hpiezas
      · exact absurd (hfalta.symm.trans hcompleta) Bool.false_ne_true
      · exact ⟨hdentro, piezas, by rw [hdistribuir]; rfl, hmapa⟩
    by_cases hlimite : dirLogica % segmentMaxSize + tam > seg.limite
    · have hfuera := UInt32.lt_iff_toNat_lt.mp hlimite
      have hno : ¬ ((dirLogica % segmentMaxSize).toNat + tam.toNat ≤ seg.limite.toNat ∨
          2 ^ 32 ≤ (dirLogica % segmentMaxSize).toNat + tam.toNat ∧
            (dirLogica % segmentMaxSize).toNat + tam.toNat ≤ 2 ^ 32 + seg.limite.toNat ∧
              2 ^ 32 ≤ seg.base.toNat + (dirLogica % segmentMaxSize).toNat) := by
        rcases Nat.lt_or_ge ((dirLogica % segmentMaxSize).toNat + tam.toNat) (2 ^ 32) with hlt | hge
        · rw [toNat_add_of_lt hlt] at hfuera
          omega
        · rw [toNat_suma_desborda hge] at hfuera
          omega
      simp only [if_neg hno, if_pos hlimite]
    · obtain ⟨hlt, hdir, hcabe⟩ | ⟨hge, hcabe, ⟨hbase, hdir⟩ | ⟨hbase, hdir⟩⟩ :=
        rango_cases hsuma hlimite hram
      · simp only [if_pos (Or.inl hcabe), if_neg hlimite]
        exact hacepta (by omega)
      · -- the address does not wrap, so the sticks end before the range does
        have hno : ¬ ((dirLogica % segmentMaxSize).toNat + tam.toNat ≤ seg.limite.toNat ∨
            2 ^ 32 ≤ (dirLogica % segmentMaxSize).toNat + tam.toNat ∧
              (dirLogica % segmentMaxSize).toNat + tam.toNat ≤ 2 ^ 32 + seg.limite.toNat ∧
                2 ^ 32 ≤ seg.base.toNat + (dirLogica % segmentMaxSize).toNat) := by omega
        simp only [if_neg hno, if_neg hlimite]
        obtain ⟨-, hdistribuir⟩ | ⟨hcompleta, -⟩ := hpiezas
        · rw [hdistribuir]
          rfl
        · apply absurd hcompleta
          rw [Bool.not_eq_true]
          apply hplana.ramDe.incompleta
          · omega
          · show sumaSticks tabla < _
            omega
      · simp only [if_pos (Or.inr (And.intro hge (And.intro hcabe hbase))), if_neg hlimite]
        exact hacepta (by omega)

/-- What a read returns, whatever it asks for. -/
theorem mmuLeerRed_alcanzada :
    mmuLeerRed segmentMaxSize tabla sticks contexto dirLogica tam =
      match direccionAlcanzada segmentMaxSize contexto.tablaSegmentos dirLogica tam with
      | none => some (.error .segFault)
      | some dir =>
        finDeLectura (ByteMemory.slice (plano tabla) dir.toNat tam.toNat) (accesos tabla dir tam).1 := by
  have htraduce := @mmuTraducirDirLogica_alcanzada _ _ _ segmentMaxSize dirLogica tam hplana hsticks
    hresidentes
  cases hdir : direccionAlcanzada segmentMaxSize contexto.tablaSegmentos dirLogica tam with
  | none =>
    simp only [hdir] at htraduce
    rw [mmuLeerRed, htraduce]
  | some dir =>
    simp only [hdir] at htraduce
    obtain ⟨hdentro, piezas, hpiezas, hmapa⟩ := htraduce
    exact mmuLeerRed_traducida hplana hsticks hpiezas hmapa hdentro

/-- What a write does, whatever it asks for. -/
theorem mmuEscribirRed_alcanzada {datos : List UInt8} (hdatos : tam.toNat ≤ datos.length) :
    match direccionAlcanzada segmentMaxSize contexto.tablaSegmentos dirLogica tam with
    | none => mmuEscribirRed segmentMaxSize tabla sticks contexto dirLogica datos tam =
        some (.segFault, tabla)
    | some dir =>
      (EscrituraLlega tabla [] dir tam → ∃ despues,
        mmuEscribirRed segmentMaxSize tabla sticks contexto dirLogica datos tam =
          some (.continuar, despues) ∧ MismaTabla despues tabla ∧
        plano despues = ByteMemory.overlay (plano tabla) dir.toNat (datos.take tam.toNat)) ∧
      (¬ EscrituraLlega tabla [] dir tam →
        mmuEscribirRed segmentMaxSize tabla sticks contexto dirLogica datos tam = none) := by
  have htraduce := @mmuTraducirDirLogica_alcanzada _ _ _ segmentMaxSize dirLogica tam hplana hsticks
    hresidentes
  cases hdir : direccionAlcanzada segmentMaxSize contexto.tablaSegmentos dirLogica tam with
  | none =>
    simp only [hdir] at htraduce
    simp only [mmuEscribirRed, htraduce]
  | some dir =>
    simp only [hdir] at htraduce
    obtain ⟨hdentro, piezas, hpiezas, hmapa⟩ := htraduce
    exact mmuEscribirRed_traducida hplana hsticks hpiezas hmapa hdentro hdatos

variable (hsin : SinDesbordeCpu segmentMaxSize contexto.tablaSegmentos dirLogica tam)
include hsin

theorem mmuLeerRed_conocida :
    mmuLeerRed segmentMaxSize tabla sticks contexto dirLogica tam =
      match direccionPropia segmentMaxSize contexto.tablaSegmentos dirLogica tam with
      | none => some (.error .segFault)
      | some dir =>
        finDeLectura (ByteMemory.slice (plano tabla) dir.toNat tam.toNat) (accesos tabla dir tam).1 := by
  rw [← direccionAlcanzada_eq hsin]
  exact mmuLeerRed_alcanzada hplana hsticks hresidentes

theorem mmuEscribirRed_conocida {datos : List UInt8} (hdatos : tam.toNat ≤ datos.length) :
    match direccionPropia segmentMaxSize contexto.tablaSegmentos dirLogica tam with
    | none => mmuEscribirRed segmentMaxSize tabla sticks contexto dirLogica datos tam =
        some (.segFault, tabla)
    | some dir =>
      (EscrituraLlega tabla [] dir tam → ∃ despues,
        mmuEscribirRed segmentMaxSize tabla sticks contexto dirLogica datos tam =
          some (.continuar, despues) ∧ MismaTabla despues tabla ∧
        plano despues = ByteMemory.overlay (plano tabla) dir.toNat (datos.take tam.toNat)) ∧
      (¬ EscrituraLlega tabla [] dir tam →
        mmuEscribirRed segmentMaxSize tabla sticks contexto dirLogica datos tam = none) := by
  rw [← direccionAlcanzada_eq hsin]
  exact mmuEscribirRed_alcanzada hplana hsticks hresidentes hdatos

end Conocidos

/-! ## A CPU that knows the sticks of an earlier table -/

/-- The sticks of `inicial`, with any bytes in them, and then others. -/
def Extiende (tabla inicial : List MemoryStick) : Prop :=
  ∃ viejos nuevos, tabla = viejos ++ nuevos ∧ MismaTabla viejos inicial

/-- The CPU knows the sticks of `inicial`, and those that came up to some later moment. -/
def Conoce (inicial : List MemoryStick) (sticks : List CpuStick) (tabla : List MemoryStick) : Prop :=
  ∃ conocidos nuevos, tabla = conocidos ++ nuevos ∧ MismosSticks sticks conocidos ∧
    Extiende conocidos inicial

theorem Extiende.refl (tabla : List MemoryStick) : Extiende tabla tabla :=
  ⟨tabla, [], (List.append_nil tabla).symm, MismaTabla.refl tabla⟩

theorem extiende_of_mismaTabla {tabla otra : List MemoryStick} (h : MismaTabla tabla otra) :
    Extiende tabla otra :=
  ⟨tabla, [], (List.append_nil tabla).symm, h⟩

theorem Extiende.partes {tabla conocidos nuevos : List MemoryStick}
    (h : Extiende tabla (conocidos ++ nuevos)) :
    ∃ viejos otros, tabla = viejos ++ otros ∧ MismaTabla viejos conocidos := by
  obtain ⟨viejos, otros, rfl, hmisma⟩ := h
  have hmapa : viejos.map MemoryStick.entrada =
      conocidos.map MemoryStick.entrada ++ nuevos.map MemoryStick.entrada :=
    Eq.trans hmisma List.map_append
  obtain ⟨primeros, segundos, rfl, hprimeros, -⟩ := List.map_eq_append_iff.mp hmapa
  exact ⟨primeros, segundos ++ otros, List.append_assoc .., hprimeros⟩

theorem Extiende.trans {tabla medio inicial : List MemoryStick} (h : Extiende tabla medio)
    (h' : Extiende medio inicial) : Extiende tabla inicial := by
  obtain ⟨conocidos, nuevos, rfl, hmisma⟩ := h'
  obtain ⟨viejos, otros, rfl, hviejos⟩ := h.partes
  exact ⟨viejos, otros, rfl, hviejos.trans hmisma⟩

theorem MismosSticks.of_mismaTabla {sticks : List CpuStick} {tabla otra : List MemoryStick}
    (h : MismosSticks sticks tabla) (hmisma : MismaTabla otra tabla) : MismosSticks sticks otra := by
  have hentradas : ∀ idx : ℕ, otra[idx]?.map MemoryStick.entrada = tabla[idx]?.map MemoryStick.entrada := by
    intro idx
    rw [← List.getElem?_map, ← List.getElem?_map, hmisma]
  constructor
  · intro entrada hentrada
    obtain ⟨stick, hget, hbase, hsize, hsocket⟩ := h.fiel entrada hentrada
    have hotra := hentradas entrada.proceso
    rw [hget, Option.map_some] at hotra
    obtain ⟨otro, hotro, higual⟩ := Option.map_eq_some_iff.mp hotra
    refine ⟨otro, hotro, ?_, ?_, hsocket⟩
    · exact hbase.trans (congrArg MemoryStick.baseFisica higual).symm
    · exact hsize.trans (congrArg MemoryStick.tamanio higual).symm
  · intro idx stick hget
    have hotra := hentradas idx
    rw [hget, Option.map_some] at hotra
    obtain ⟨otro, hotro, -⟩ := Option.map_eq_some_iff.mp hotra.symm
    exact h.todos idx otro hotro

theorem Conoce.extiende {inicial tabla otra : List MemoryStick} {sticks : List CpuStick}
    (h : Conoce inicial sticks tabla) (hotra : Extiende otra tabla) : Conoce inicial sticks otra := by
  obtain ⟨conocidos, nuevos, rfl, hsticks, hinicial⟩ := h
  obtain ⟨viejos, otros, rfl, hviejos⟩ := hotra.partes
  exact ⟨viejos, otros, rfl, hsticks.of_mismaTabla hviejos, (extiende_of_mismaTabla hviejos).trans hinicial⟩

theorem MismosSticks.conoce {sticks : List CpuStick} {tabla : List MemoryStick}
    (h : MismosSticks sticks tabla) : Conoce tabla sticks tabla :=
  ⟨tabla, [], (List.append_nil tabla).symm, h, Extiende.refl tabla⟩

section Inicial

variable {inicial tabla : List MemoryStick} (h : Extiende tabla inicial)
include h

theorem Extiende.sumaSticks_le : sumaSticks inicial ≤ sumaSticks tabla := by
  obtain ⟨viejos, nuevos, rfl, hmisma⟩ := h
  rw [sumaSticks_append, hmisma.sumaSticks]
  exact Nat.le_add_right _ _

theorem Extiende.residentes {segmentos : List Segmento} (hresidentes : Residentes inicial segmentos) :
    Residentes tabla segmentos := by
  intro seg hseg
  obtain ⟨hbase, hram⟩ := hresidentes seg hseg
  exact ⟨hbase, hram.trans h.sumaSticks_le⟩

theorem Extiende.inicial_plana (hplana : TablaPlana tabla) : TablaPlana inicial := by
  obtain ⟨viejos, nuevos, rfl, hmisma⟩ := h
  exact hplana.viejos.of_mismaTabla hmisma.symm

/-- Requests inside the old sticks are the same. -/
theorem Extiende.accesos (hplana : TablaPlana tabla) {dir tam : UInt32}
    (hdentro : dir.toNat + tam.toNat ≤ sumaSticks inicial) :
    accesos tabla dir tam = Memoria.accesos inicial dir tam := by
  have hinicial := h.inicial_plana hplana
  have hcompleta : (Memoria.accesos inicial dir tam).2 = true := by
    apply hinicial.ramDe.toSana.accesosIo_completa
    rw [hinicial.ramDe.total_eq]
    exact hdentro
  obtain ⟨viejos, nuevos, rfl, hmisma⟩ := h
  have higual : Memoria.accesos viejos dir tam = Memoria.accesos inicial dir tam :=
    hmisma.accesosIo tam.toNat dir tam
  calc Memoria.accesos (viejos ++ nuevos) dir tam
      = Memoria.accesos viejos dir tam := accesosIo_viejos _ (by
        show (Memoria.accesos viejos dir tam).2 = true
        rw [higual]
        exact hcompleta)
    _ = Memoria.accesos inicial dir tam := higual

end Inicial

theorem MismosSticks.conocidos {sticks : List CpuStick} {tabla : List MemoryStick}
    (h : MismosSticks sticks tabla) : ∀ entrada ∈ sticks, entrada.proceso < tabla.length := by
  intro entrada hentrada
  obtain ⟨stick, hget, -⟩ := h.fiel entrada hentrada
  exact (List.getElem?_eq_some_iff.mp hget).1

section Vista

variable [Recepcion] {inicial tabla : List MemoryStick} {sticks : List CpuStick} {contexto : Contexto}
  {segmentMaxSize dirLogica tam : UInt32} (hconoce : Conoce inicial sticks tabla)
  (hplana : TablaPlana tabla) (hresidentes : Residentes inicial contexto.tablaSegmentos)
  (hsin : SinDesbordeCpu segmentMaxSize contexto.tablaSegmentos dirLogica tam)
include hconoce hplana hresidentes hsin

/-- A read of a CPU that knows the sticks of the segments. -/
theorem Conoce.mmuLeerRed :
    mmuLeerRed segmentMaxSize tabla sticks contexto dirLogica tam =
      match direccionPropia segmentMaxSize contexto.tablaSegmentos dirLogica tam with
      | none => some (.error .segFault)
      | some dir =>
        finDeLectura (ByteMemory.slice (plano tabla) dir.toNat tam.toNat) (accesos inicial dir tam).1 := by
  obtain ⟨conocidos, nuevos, rfl, hsticks, hinicial⟩ := hconoce
  have hviejos : Cpu.mmuLeerRed segmentMaxSize (conocidos ++ nuevos) sticks contexto dirLogica tam =
      Cpu.mmuLeerRed segmentMaxSize conocidos sticks contexto dirLogica tam := by
    unfold Cpu.mmuLeerRed
    simp only [leerPiezasRed_viejos hsticks.conocidos]
  rw [hviejos, mmuLeerRed_conocida hplana.viejos hsticks (hinicial.residentes hresidentes) hsin]
  have hinicialPlana := hinicial.inicial_plana hplana.viejos
  cases hdir : direccionPropia segmentMaxSize contexto.tablaSegmentos dirLogica tam with
  | none => rfl
  | some dir =>
    obtain ⟨hdentro, -⟩ := direccionPropia_enSegmentos hinicialPlana.suma_lt hresidentes hdir
    have hbytes : ByteMemory.slice (plano conocidos) dir.toNat tam.toNat =
        ByteMemory.slice (plano (conocidos ++ nuevos)) dir.toNat tam.toNat := by
      apply ByteMemory.slice_congr
      intro address _ hlt
      have hle := hinicial.sumaSticks_le
      exact (plano_viejos hplana.viejos nuevos (by omega)).symm
    simp only [hbytes, hinicial.accesos hplana.viejos hdentro]

/-- A write of a CPU that knows the sticks of the segments. -/
theorem Conoce.mmuEscribirRed {datos : List UInt8} (hdatos : datos.length = tam.toNat) :
    match direccionPropia segmentMaxSize contexto.tablaSegmentos dirLogica tam with
    | none => mmuEscribirRed segmentMaxSize tabla sticks contexto dirLogica datos tam =
        some (.segFault, tabla)
    | some dir =>
      (EscrituraLlega inicial [] dir tam → ∃ despues,
        mmuEscribirRed segmentMaxSize tabla sticks contexto dirLogica datos tam =
          some (.continuar, despues) ∧ MismaTabla despues tabla ∧
        ByteMemory.AgreeOn (· < sumaSticks inicial) (plano despues)
          (ByteMemory.overlay (plano tabla) dir.toNat datos)) ∧
      (¬ EscrituraLlega inicial [] dir tam →
        mmuEscribirRed segmentMaxSize tabla sticks contexto dirLogica datos tam = none) := by
  obtain ⟨conocidos, nuevos, rfl, hsticks, hinicial⟩ := hconoce
  have hviejos : Cpu.mmuEscribirRed segmentMaxSize (conocidos ++ nuevos) sticks contexto dirLogica datos
        tam =
      (Cpu.mmuEscribirRed segmentMaxSize conocidos sticks contexto dirLogica datos tam).map
        fun r ↦ (r.1, r.2 ++ nuevos) := by
    unfold Cpu.mmuEscribirRed
    cases mmuTraducirDirLogica segmentMaxSize sticks contexto dirLogica tam with
    | none => rfl
    | some traduccion => exact escribirPiezasRed_viejos hsticks.conocidos nuevos _ _
  have hescribe := mmuEscribirRed_conocida hplana.viejos hsticks (hinicial.residentes hresidentes) hsin
    hdatos.ge
  have hinicialPlana := hinicial.inicial_plana hplana.viejos
  rw [hviejos]
  cases hdir : direccionPropia segmentMaxSize contexto.tablaSegmentos dirLogica tam with
  | none =>
    simp only [hdir] at hescribe
    simp only [hescribe, Option.map_some]
  | some dir =>
    simp only [hdir] at hescribe
    obtain ⟨hdentro, -⟩ := direccionPropia_enSegmentos hinicialPlana.suma_lt hresidentes hdir
    have hcabe : EscrituraLlega conocidos [] dir tam ↔ EscrituraLlega inicial [] dir tam := by
      unfold EscrituraLlega
      rw [hinicial.accesos hplana.viejos hdentro]
    constructor
    · intro htodas
      obtain ⟨despues, hdespues, hmisma, hplano⟩ := hescribe.1 (hcabe.mpr htodas)
      refine ⟨despues ++ nuevos, by rw [hdespues, Option.map_some], ?_, ?_⟩
      · show (despues ++ nuevos).map _ = (conocidos ++ nuevos).map _
        rw [List.map_append, List.map_append, hmisma]
      · intro address hlt
        have hle := hinicial.sumaSticks_le
        have hsuma : sumaSticks despues = sumaSticks conocidos := hmisma.sumaSticks
        have hplanaDespues := hplana.viejos.of_mismaTabla hmisma
        rw [plano_viejos hplanaDespues nuevos (by omega), hplano, List.take_of_length_le hdatos.le]
        simp only [ByteMemory.overlay, plano_viejos hplana.viejos nuevos (show address < _ by omega)]
    · intro hno
      rw [hescribe.2 fun htodas ↦ hno (hcabe.mp htodas), Option.map_none]

end Vista

end PlugAndPlay.Cpu
