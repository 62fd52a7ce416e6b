/-!
# Clocks of the past

How far the clocks of the exchanges were ahead of universal time before the present rules.  At first
every city kept its mean solar time, and then the clocks were set many times, to a standard time and
to daylight saving.  A history ends where rules begin to describe the clock, which for those listed
here is the middle of 2008.

* `History.offsetAt` is the distance from universal time at a second of the past.
-/

namespace EntryGate

/-- The settings of a clock over the years. -/
structure History where
  /-- The distances from universal time that the clock has had, in seconds; the first one is that of
  mean solar time. -/
  offsets : List Int
  /-- The seconds since the beginning of 1800 at which the clock was set, in ascending order, each
  with the place of the new distance among `offsets`. -/
  changes : List (Nat × Nat)
  /-- The second with which the history ends: the first of July 2008, unless it says otherwise. -/
  finish : Int := 1214870400
deriving DecidableEq, Repr

namespace History

/-- The second with which the histories begin: the first of January 1800. -/
def start : Int := -5364662400

/-- The place among `offsets` of what the clock was set to at a second. -/
def placeAt (h : History) (seconds : Int) : Nat :=
  h.changes.foldl (fun place change => if start + change.1 ≤ seconds then change.2 else place) 0

/-- Seconds that the clock was ahead at a second of universal time. -/
def offsetAt (h : History) (seconds : Int) : Int :=
  (h.offsets[h.placeAt seconds]?).getD 0

/-- A clock that was never set. -/
def constant (offset : Int) : History where
  offsets := [offset]
  changes := []

@[simp]
theorem offsetAt_constant (offset seconds : Int) : (constant offset).offsetAt seconds = offset := rfl

/-- The clocks of New York. -/
def newYork : History where
  offsets := [-17762, -18000, -14400]
  changes := [
    (2647011600, 1), (3731382000, 2), (3749522400, 1), (3762831600, 2), (3780972000, 1),
    (3794281200, 2), (3813026400, 1), (3828150000, 2), (3841452000, 1), (3860204400, 2),
    (3872901600, 1), (3891654000, 2), (3904956000, 1), (3923103600, 2), (3936405600, 1),
    (3954553200, 2), (3967855200, 1), (3986002800, 2), (3999304800, 1), (4017452400, 2),
    (4030754400, 1), (4049506800, 2), (4062808800, 1), (4080956400, 2), (4094258400, 1),
    (4112406000, 2), (4125708000, 1), (4143855600, 2), (4157157600, 1), (4175305200, 2),
    (4188607200, 1), (4207359600, 2), (4220056800, 1), (4238809200, 2), (4252111200, 1),
    (4270258800, 2), (4283560800, 1), (4301708400, 2), (4315010400, 1), (4333158000, 2),
    (4346460000, 1), (4364607600, 2), (4377909600, 1), (4396662000, 2), (4409359200, 1),
    (4428111600, 2), (4441413600, 1), (4459561200, 2), (4472863200, 1), (4484444400, 2),
    (4599266400, 1), (4617414000, 2), (4630716000, 1), (4648863600, 2), (4662165600, 1),
    (4680313200, 2), (4693615200, 1), (4711762800, 2), (4725064800, 1), (4743817200, 2),
    (4756514400, 1), (4775266800, 2), (4788568800, 1), (4806716400, 2), (4820018400, 1),
    (4838166000, 2), (4851468000, 1), (4869615600, 2), (4882917600, 1), (4901065200, 2),
    (4917391200, 1), (4933119600, 2), (4948840800, 1), (4964569200, 2), (4980290400, 1),
    (4996018800, 2), (5011740000, 1), (5027468400, 2), (5043189600, 1), (5058918000, 2),
    (5075244000, 1), (5090972400, 2), (5106693600, 1), (5122422000, 2), (5138143200, 1),
    (5153871600, 2), (5169592800, 1), (5185321200, 2), (5201042400, 1), (5216770800, 2),
    (5233096800, 1), (5248220400, 2), (5264546400, 1), (5280274800, 2), (5295996000, 1),
    (5311724400, 2), (5327445600, 1), (5343174000, 2), (5358895200, 1), (5374623600, 2),
    (5390344800, 1), (5406073200, 2), (5422399200, 1), (5438127600, 2), (5453848800, 1),
    (5469577200, 2), (5485298400, 1), (5491350000, 2), (5516748000, 1), (5527033200, 2),
    (5548197600, 1), (5563926000, 2), (5580252000, 1), (5595375600, 2), (5611701600, 1),
    (5627430000, 2), (5643151200, 1), (5658879600, 2), (5674600800, 1), (5690329200, 2),
    (5706050400, 1), (5721778800, 2), (5737500000, 1), (5753228400, 2), (5769554400, 1),
    (5784678000, 2), (5801004000, 1), (5816732400, 2), (5832453600, 1), (5848182000, 2),
    (5863903200, 1), (5879631600, 2), (5895352800, 1), (5909266800, 2), (5926802400, 1),
    (5940716400, 2), (5958856800, 1), (5972166000, 2), (5990306400, 1), (6003615600, 2),
    (6021756000, 1), (6035670000, 2), (6053205600, 1), (6067119600, 2), (6084655200, 1),
    (6098569200, 2), (6116709600, 1), (6130018800, 2), (6148159200, 1), (6161468400, 2),
    (6179608800, 1), (6193522800, 2), (6211058400, 1), (6224972400, 2), (6242508000, 1),
    (6256422000, 2), (6273957600, 1), (6287871600, 2), (6306012000, 1), (6319321200, 2),
    (6337461600, 1), (6350770800, 2), (6368911200, 1), (6382825200, 2), (6400360800, 1),
    (6414274800, 2), (6431810400, 1), (6445724400, 2), (6463864800, 1), (6477174000, 2),
    (6495314400, 1), (6508623600, 2), (6526764000, 1), (6538258800, 2), (6558818400, 1),
    (6569708400, 2)]

/-- The clocks of Chicago. -/
def chicago : History where
  offsets := [-21036, -21600, -18000]
  changes := [
    (2647015200, 1), (3731385600, 2), (3749526000, 1), (3762835200, 2), (3780975600, 1),
    (3800937600, 2), (3813030000, 1), (3825734400, 2), (3844479600, 1), (3860208000, 2),
    (3872905200, 1), (3891657600, 2), (3904959600, 1), (3923107200, 2), (3936409200, 1),
    (3954556800, 2), (3967858800, 1), (3986006400, 2), (3999308400, 1), (4017456000, 2),
    (4030758000, 1), (4049510400, 2), (4062812400, 1), (4080960000, 2), (4094262000, 1),
    (4112409600, 2), (4125711600, 1), (4143859200, 2), (4157161200, 1), (4175308800, 2),
    (4188610800, 1), (4207363200, 2), (4220060400, 1), (4238812800, 2), (4252114800, 1),
    (4270262400, 2), (4283564400, 1), (4296873600, 2), (4319247600, 1), (4333161600, 2),
    (4346463600, 1), (4364611200, 2), (4377913200, 1), (4396665600, 2), (4409362800, 1),
    (4428115200, 2), (4441417200, 1), (4459564800, 2), (4472866800, 1), (4484448000, 2),
    (4599270000, 1), (4617417600, 2), (4630719600, 1), (4648867200, 2), (4662169200, 1),
    (4680316800, 2), (4693618800, 1), (4711766400, 2), (4725068400, 1), (4743820800, 2),
    (4756518000, 1), (4775270400, 2), (4788572400, 1), (4806720000, 2), (4820022000, 1),
    (4838169600, 2), (4851471600, 1), (4869619200, 2), (4882921200, 1), (4901068800, 2),
    (4917394800, 1), (4933123200, 2), (4948844400, 1), (4964572800, 2), (4980294000, 1),
    (4996022400, 2), (5011743600, 1), (5027472000, 2), (5043193200, 1), (5058921600, 2),
    (5075247600, 1), (5090976000, 2), (5106697200, 1), (5122425600, 2), (5138146800, 1),
    (5153875200, 2), (5169596400, 1), (5185324800, 2), (5201046000, 1), (5216774400, 2),
    (5233100400, 1), (5248224000, 2), (5264550000, 1), (5280278400, 2), (5295999600, 1),
    (5311728000, 2), (5327449200, 1), (5343177600, 2), (5358898800, 1), (5374627200, 2),
    (5390348400, 1), (5406076800, 2), (5422402800, 1), (5438131200, 2), (5453852400, 1),
    (5469580800, 2), (5485302000, 1), (5491353600, 2), (5516751600, 1), (5527036800, 2),
    (5548201200, 1), (5563929600, 2), (5580255600, 1), (5595379200, 2), (5611705200, 1),
    (5627433600, 2), (5643154800, 1), (5658883200, 2), (5674604400, 1), (5690332800, 2),
    (5706054000, 1), (5721782400, 2), (5737503600, 1), (5753232000, 2), (5769558000, 1),
    (5784681600, 2), (5801007600, 1), (5816736000, 2), (5832457200, 1), (5848185600, 2),
    (5863906800, 1), (5879635200, 2), (5895356400, 1), (5909270400, 2), (5926806000, 1),
    (5940720000, 2), (5958860400, 1), (5972169600, 2), (5990310000, 1), (6003619200, 2),
    (6021759600, 1), (6035673600, 2), (6053209200, 1), (6067123200, 2), (6084658800, 1),
    (6098572800, 2), (6116713200, 1), (6130022400, 2), (6148162800, 1), (6161472000, 2),
    (6179612400, 1), (6193526400, 2), (6211062000, 1), (6224976000, 2), (6242511600, 1),
    (6256425600, 2), (6273961200, 1), (6287875200, 2), (6306015600, 1), (6319324800, 2),
    (6337465200, 1), (6350774400, 2), (6368914800, 1), (6382828800, 2), (6400364400, 1),
    (6414278400, 2), (6431814000, 1), (6445728000, 2), (6463868400, 1), (6477177600, 2),
    (6495318000, 1), (6508627200, 2), (6526767600, 1), (6538262400, 2), (6558822000, 1),
    (6569712000, 2)]

/-- The clocks of Los Angeles. -/
def losAngeles : History where
  offsets := [-28378, -28800, -25200]
  changes := [
    (2647022400, 1), (3731392800, 2), (3749533200, 1), (3762842400, 2), (3780982800, 1),
    (4484455200, 2), (4599277200, 1), (4676695260, 2), (4702006800, 1), (4743824400, 2),
    (4756525200, 1), (4775274000, 2), (4788579600, 1), (4806723600, 2), (4820029200, 1),
    (4838173200, 2), (4851478800, 1), (4869622800, 2), (4882928400, 1), (4901072400, 2),
    (4914378000, 1), (4933126800, 2), (4946432400, 1), (4964576400, 2), (4977882000, 1),
    (4996026000, 2), (5009331600, 1), (5027475600, 2), (5040781200, 1), (5058925200, 2),
    (5072230800, 1), (5090979600, 2), (5103680400, 1), (5122429200, 2), (5138154000, 1),
    (5153878800, 2), (5169603600, 1), (5185328400, 2), (5201053200, 1), (5216778000, 2),
    (5233107600, 1), (5248227600, 2), (5264557200, 1), (5280285600, 2), (5296006800, 1),
    (5311735200, 2), (5327456400, 1), (5343184800, 2), (5358906000, 1), (5374634400, 2),
    (5390355600, 1), (5406084000, 2), (5422410000, 1), (5438138400, 2), (5453859600, 1),
    (5469588000, 2), (5485309200, 1), (5491360800, 2), (5516758800, 1), (5527044000, 2),
    (5548208400, 1), (5563936800, 2), (5580262800, 1), (5595386400, 2), (5611712400, 1),
    (5627440800, 2), (5643162000, 1), (5658890400, 2), (5674611600, 1), (5690340000, 2),
    (5706061200, 1), (5721789600, 2), (5737510800, 1), (5753239200, 2), (5769565200, 1),
    (5784688800, 2), (5801014800, 1), (5816743200, 2), (5832464400, 1), (5848192800, 2),
    (5863914000, 1), (5879642400, 2), (5895363600, 1), (5909277600, 2), (5926813200, 1),
    (5940727200, 2), (5958867600, 1), (5972176800, 2), (5990317200, 1), (6003626400, 2),
    (6021766800, 1), (6035680800, 2), (6053216400, 1), (6067130400, 2), (6084666000, 1),
    (6098580000, 2), (6116720400, 1), (6130029600, 2), (6148170000, 1), (6161479200, 2),
    (6179619600, 1), (6193533600, 2), (6211069200, 1), (6224983200, 2), (6242518800, 1),
    (6256432800, 2), (6273968400, 1), (6287882400, 2), (6306022800, 1), (6319332000, 2),
    (6337472400, 1), (6350781600, 2), (6368922000, 1), (6382836000, 2), (6400371600, 1),
    (6414285600, 2), (6431821200, 1), (6445735200, 2), (6463875600, 1), (6477184800, 2),
    (6495325200, 1), (6508634400, 2), (6526774800, 1), (6538269600, 2), (6558829200, 1),
    (6569719200, 2)]

/-- The clocks of London. -/
def london : History where
  offsets := [-75, 0, 3600, 7200]
  changes := [
    (1512000075, 1), (3672698400, 2), (3684189600, 1), (3700519200, 2), (3714516000, 1),
    (3730759200, 2), (3747175200, 1), (3762813600, 2), (3778624800, 1), (3794263200, 2),
    (3812493600, 1), (3826317600, 2), (3842128800, 1), (3857162400, 2), (3874096800, 1),
    (3891031200, 2), (3903732000, 1), (3921876000, 2), (3935786400, 1), (3953930400, 2),
    (3968445600, 1), (3985380000, 2), (3999895200, 1), (4016224800, 2), (4031344800, 1),
    (4048884000, 2), (4063399200, 1), (4080333600, 2), (4094848800, 1), (4111178400, 2),
    (4126298400, 1), (4143232800, 2), (4157748000, 1), (4174682400, 2), (4189197600, 1),
    (4205527200, 2), (4221252000, 1), (4238186400, 2), (4252701600, 1), (4269031200, 2),
    (4284151200, 1), (4301085600, 2), (4315600800, 1), (4332535200, 2), (4347050400, 1),
    (4363380000, 2), (4378500000, 1), (4395434400, 2), (4414183200, 1), (4422650400, 2),
    (4460144400, 3), (4468611600, 2), (4489174800, 3), (4500061200, 2), (4520624400, 3),
    (4532115600, 2), (4552074000, 3), (4566589200, 2), (4583610000, 3), (4592595600, 2),
    (4599856800, 1), (4616186400, 2), (4631306400, 1), (4645216800, 2), (4647632400, 3),
    (4657914000, 2), (4665175200, 1), (4676666400, 2), (4696624800, 1), (4709930400, 2),
    (4728074400, 1), (4742589600, 2), (4758919200, 1), (4774039200, 2), (4790368800, 1),
    (4806093600, 2), (4822423200, 1), (4837543200, 2), (4852058400, 1), (4868388000, 2),
    (4883508000, 1), (4900442400, 2), (4914957600, 1), (4932496800, 2), (4947012000, 1),
    (4963341600, 2), (4978461600, 1), (4995396000, 2), (5009911200, 1), (5026845600, 2),
    (5041360800, 1), (5057690400, 2), (5072810400, 1), (5087930400, 2), (5106679200, 1),
    (5119380000, 2), (5138128800, 1), (5151434400, 2), (5169578400, 1), (5182279200, 2),
    (5201028000, 1), (5213728800, 2), (5232477600, 1), (5245178400, 2), (5263927200, 1),
    (5276628000, 2), (5295981600, 1), (5305658400, 2), (5422384800, 1), (5434480800, 2),
    (5453834400, 1), (5465930400, 2), (5485284000, 1), (5497380000, 2), (5516733600, 1),
    (5528829600, 2), (5548183200, 1), (5560884000, 2), (5579632800, 1), (5592333600, 2),
    (5611082400, 1), (5623783200, 2), (5643136800, 1), (5655232800, 2), (5674586400, 1),
    (5686682400, 2), (5706036000, 1), (5719338000, 2), (5737482000, 1), (5750787600, 2),
    (5768931600, 1), (5782237200, 2), (5800381200, 1), (5813686800, 2), (5832435600, 1),
    (5845741200, 2), (5863885200, 1), (5877190800, 2), (5895334800, 1), (5908640400, 2),
    (5926784400, 1), (5940090000, 2), (5958234000, 1), (5971539600, 2), (5990288400, 1),
    (6002989200, 2), (6021738000, 1), (6035043600, 2), (6053187600, 1), (6066493200, 2),
    (6084637200, 1), (6097942800, 2), (6116086800, 1), (6129392400, 2), (6147536400, 1),
    (6160842000, 2), (6178986000, 1), (6192896400, 2), (6211040400, 1), (6224346000, 2),
    (6242490000, 1), (6255795600, 2), (6273939600, 1), (6287245200, 2), (6305994000, 1),
    (6318694800, 2), (6337443600, 1), (6350144400, 2), (6368893200, 1), (6382198800, 2),
    (6400342800, 1), (6413648400, 2), (6431792400, 1), (6445098000, 2), (6463846800, 1),
    (6476547600, 2), (6495296400, 1), (6507997200, 2), (6526746000, 1), (6539446800, 2),
    (6558195600, 1), (6571501200, 2)]

/-- The clocks of Berlin. -/
def berlin : History where
  offsets := [3208, 3600, 7200, 10800]
  changes := [
    (2942607992, 1), (3670956000, 2), (3684178800, 1), (3701206800, 2), (3714512400, 1),
    (3732656400, 2), (3745962000, 1), (4425757200, 2), (4507405200, 1), (4520106000, 2),
    (4536435600, 1), (4552160400, 2), (4567885200, 1), (4583610000, 2), (4588099200, 3),
    (4598726400, 2), (4603482000, 1), (4616182800, 2), (4631389200, 1), (4647031200, 2),
    (4650051600, 3), (4654281600, 2), (4662752400, 1), (4679686800, 2), (4694202000, 1),
    (4710531600, 2), (4725651600, 1), (5688493200, 2), (5703613200, 1), (5719338000, 2),
    (5735062800, 1), (5750787600, 2), (5766512400, 1), (5782237200, 2), (5797962000, 1),
    (5813686800, 2), (5830016400, 1), (5845741200, 2), (5861466000, 1), (5877190800, 2),
    (5892915600, 1), (5908640400, 2), (5924365200, 1), (5940090000, 2), (5955814800, 1),
    (5971539600, 2), (5987264400, 1), (6002989200, 2), (6019318800, 1), (6035043600, 2),
    (6050768400, 1), (6066493200, 2), (6082218000, 1), (6097942800, 2), (6113667600, 1),
    (6129392400, 2), (6145117200, 1), (6160842000, 2), (6176566800, 1), (6192896400, 2),
    (6211040400, 1), (6224346000, 2), (6242490000, 1), (6255795600, 2), (6273939600, 1),
    (6287245200, 2), (6305994000, 1), (6318694800, 2), (6337443600, 1), (6350144400, 2),
    (6368893200, 1), (6382198800, 2), (6400342800, 1), (6413648400, 2), (6431792400, 1),
    (6445098000, 2), (6463846800, 1), (6476547600, 2), (6495296400, 1), (6507997200, 2),
    (6526746000, 1), (6539446800, 2), (6558195600, 1), (6571501200, 2)]

/-- The clocks of Sydney. -/
def sydney : History where
  offsets := [36292, 36000, 39600]
  changes := [
    (3000549308, 1), (3692102400, 2), (3699273600, 1), (4481020800, 2), (4488537600, 1),
    (4504262400, 2), (4519987200, 1), (4536316800, 2), (4551436800, 1), (5422348800, 2),
    (5432630400, 1), (5453798400, 2), (5464684800, 1), (5485248000, 2), (5496134400, 1),
    (5516697600, 2), (5527584000, 1), (5548147200, 2), (5559638400, 1), (5580201600, 2),
    (5591088000, 1), (5611651200, 2), (5622537600, 1), (5643100800, 2), (5653987200, 1),
    (5674550400, 2), (5685436800, 1), (5706000000, 2), (5716886400, 1), (5737449600, 2),
    (5751360000, 1), (5769504000, 2), (5780390400, 1), (5800953600, 2), (5811840000, 1),
    (5832403200, 2), (5843289600, 1), (5863852800, 2), (5875948800, 1), (5894697600, 2),
    (5907398400, 1), (5926752000, 2), (5939452800, 1), (5958806400, 2), (5970902400, 1),
    (5990256000, 2), (6001142400, 1), (6021705600, 2), (6032592000, 1), (6053155200, 2),
    (6064041600, 1), (6084604800, 2), (6096096000, 1), (6116659200, 2), (6127545600, 1),
    (6148108800, 2), (6158995200, 1), (6179558400, 2), (6192864000, 1), (6211008000, 2),
    (6224313600, 1), (6242457600, 2), (6255763200, 1), (6273907200, 2), (6287212800, 1),
    (6305961600, 2), (6318662400, 1), (6331968000, 2), (6350112000, 1), (6368860800, 2),
    (6382166400, 1), (6400310400, 2), (6413616000, 1), (6431760000, 2), (6445065600, 1),
    (6463814400, 2), (6476515200, 1), (6495264000, 2), (6508569600, 1), (6526713600, 2),
    (6539414400, 1), (6558163200, 2), (6572073600, 1)]

/-- The clocks of Tokyo. -/
def tokyo : History where
  offsets := [33539, 32400, 36000]
  changes := [
    (2776950000, 1), (4680860400, 2), (4692351600, 1), (4709890800, 2), (4723801200, 1),
    (4744364400, 2), (4755250800, 1), (4775814000, 2), (4786700400, 1)]

/-- The clocks of Kolkata. -/
def kolkata : History where
  offsets := [21208, 21200, 19270, 19800, 23400]
  changes := [
    (1719425192, 1), (2208967600, 2), (3344956730, 3), (4473081000, 4), (4492603800, 3),
    (4502025000, 4), (4600517400, 3)]

/-- The clocks of Hong Kong. -/
def hongKong : History where
  offsets := [27402, 28800, 32400, 30600]
  changes := [
    (3307971600, 1), (4463751600, 2), (4473082800, 3), (4480414200, 2), (4603453200, 1),
    (4616755200, 2), (4636121400, 1), (4647612600, 2), (4667571000, 1), (4680876600, 2),
    (4696601400, 1), (4709907000, 2), (4728051000, 1), (4741356600, 2), (4759500600, 1),
    (4772806200, 2), (4790950200, 1), (4804860600, 2), (4823004600, 1), (4836310200, 2),
    (4854450600, 1), (4866550200, 2), (4885900200, 1), (4897999800, 2), (4917954600, 1),
    (4929449400, 2), (4949404200, 1), (4961503800, 2), (4980853800, 1), (4992953400, 2),
    (5012303400, 1), (5024403000, 2), (5043753000, 1), (5055852600, 2), (5075807400, 1),
    (5087302200, 2), (5107257000, 1), (5118751800, 2), (5138706600, 1), (5150806200, 2),
    (5170156200, 1), (5182255800, 2), (5201605800, 1), (5216124600, 2), (5231845800, 1),
    (5247574200, 2), (5263295400, 1), (5279023800, 2), (5295349800, 1), (5311078200, 2),
    (5326799400, 1), (5342527800, 2), (5358249000, 1), (5373977400, 2), (5389698600, 1),
    (5405427000, 2), (5421148200, 1), (5436876600, 2), (5453202600, 1), (5468931000, 2),
    (5484652200, 1), (5490703800, 2), (5516101800, 1), (5531830200, 2), (5547551400, 1),
    (5563279800, 2), (5579001000, 1), (5660047800, 2), (5673954600, 1)]

end History

end EntryGate
