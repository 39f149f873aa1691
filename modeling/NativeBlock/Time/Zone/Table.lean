/-!
# The time zone table

Offsets from UTC of the zones of the IANA time zone database, one line per zone. A line holds
four fields separated by `;`:

1. the zone's names, separated by blanks (a zone and all names that refer to it);
2. its offsets in seconds east of UTC, comma separated; the first is the offset before the
   first transition;
3. its transitions in time order: each is the number of seconds since the one before it (the
   first counts from `-4000000000`), in base 36 with lower-case letters, followed by a capital
   letter that picks the new offset from field 2 (`A` is the first);
4. a yearly daylight-saving rule, or nothing: the first year it applies to, the standard and
   the daylight offset, then for the start and for the end of daylight time the month, the week
   of the month (5 is the last), the weekday (0 is Sunday) and the local time in seconds. The
   rule applies up to the year 2099; after that the last offset stays.
-/

namespace NativeBlock.Zone

/-- The zone data, in the format the module header describes. -/
def table : String := "Africa/Abidjan Africa/Accra Africa/Bamako Africa/Banjul Africa/Conakry Africa/Dakar Africa/Freetown Africa/Lome Africa/Nouakchott Africa/Ouagadougou Africa/Timbuktu Atlantic/Reykjavik Atlantic/St_Helena Iceland;-968,0;zvqf60B;
Africa/Algiers;732,561,0,3600,7200;p11kisBafgo4rC2qx1nlD5luo0C8y800Da4tc0C7vc00Dauqo0C7idc0Db7pc0C6sg00Dcyo00C7ayo0D53c00C9idxc0D3i040C51mw0D253uk0E9o2k0D92040E8l3s0Djutc0C4uy840D3rdzw0C46xc00D7x6o0C2xco40Dgkao0E9d440Dkiqg0C9d440D9q2s0C9cyk0D;
Africa/Bissau;-3740,-3600,0;zvqh74Bwvoyo0C;
Africa/Cairo Egypt;7509,7200,10800;u0czajBkrj48lC40d80Ba31g0C7x3w0Ba4w40Caqyk0B80ys0Cb07w0B7tk40Cb07w0B8jhg0Ca8fw0B60go40C7el80Bawo40C7v980Bawqw0C7tk40Bb07w0C7tk40Bayd80C7tk40Bayd80C7tk40Bayd80C7tk40Bb07w0C7tk40Bayd80C7tk40Bayd80C7ves0Bawik0C7ves0Bayd80C7ves0Bawik0C7ves0Bawik0C7ves0Bawik0C7ves0Bayd80C7ves0Bawik0C7ves0Bawik0C7ves0Bawik0C7ves0Bayd80C7ves0Bawik0C7ves0Bawik0C7ves0Bawik0C7ves0Bayd80C7ves0Bawik0C7ves0Bf9x80C3i040Beluk0C462s0Bayd80C7ves0Bawik0C7ves0Bawik0C7ves0Bawik0C7ves0Bayd80C7ves0Bb5rw0C7m5g0Bawik0C7ves0Bawik0C7ves0Bayd80C7ves0Bawik0C7ves0Bawik0C7ves0Baqvs0C7x3w0Basys0C7x3w0Basys0C7x3w0Basys0C7x3w0Bb5xg0C7x3w0Basys0C7x3w0Basys0C7x3w0Basys0C7x3w0Basys0C7x3w0Bb5xg0C7x3w0Basys0C7x3w0Basys0C7k580Bb5xg0C6u7w0Bbvus0C6h980Bc8tg0C64ak0Bcyqs0C5anw0B1jms0C12t80B1w22s0C25p80B1sw40C2vmk0B;2023,7200,10800,4,5,5,0,10,5,4,86400
Africa/Casablanca;-1820,0,3600;10tw2hoBdi7nxgC3huk0B51k40C2znuk0B2dp9g0C776k0B8nt2s0C657w0B3ifxg0C3jp80Bva040C4qak0Be1ms0C7pp80Bcnms0C3afw0B2xi840Cxqqk0Bbp56s0C4qak0Be1ms0C45x80Bd2g40C51ek0Bc8tg0C64ak0Be1sc0C47uo0B1leo0C23xc0Basw00C3lmo0B1qyo0C40g00B7x6o0C4mo00B1stc0C4deo0B7x6o0C3ylc0B1stc0C51hc0B7x6o0C3lmo0B1stc0C5reo0B7k800C2vpc0B25s00C64dc0B7k800C2iqo0B1stc0Cgkao0B1stc0Cg7c00B25s00Cg7c00B1stc0Cg7c00B25s00Cg7c00B1stc0Cgkao0B1stc0Cg7c00B25s00Cg7c00B1stc0Cgkao0B1stc0Cg7c00B25s00Cg7c00B1stc0Cg7c00B25s00Cg7c00B1stc0Cgkao0B1stc0Cg7c00B25s00Cg7c00B1stc0Cg7c00B25s00Cg7c00B25s00Cg7c00B1stc0Cg7c00B25s00Cg7c00B1stc0Cgkao0B1stc0Cg7c00B25s00Cg7c00B1stc0Cg7c00B25s00Cg7c00B25s00Cg7c00B1stc0Cg7c00B25s00Cg7c00B1stc0Cgkao0B1stc0Cg7c00B25s00Cg7c00B1stc0Cg7c00B25s00Cg7c00B25s00Cg7c00B1stc0Cg7c00B25s00Cg7c00B1stc0Cgkao0B1stc0Cg7c00B25s00Cg7c00B1stc0Cg7c00B25s00Cg7c00B25s00Cg7c00B1stc0Cg7c00B25s00Cg7c00B1stc0Cgkao0B1stc0Cg7c00B25s00Cg7c00B1stc0Cg7c00B25s00Cg7c00B25s00Cg7c00B1stc0Cg7c00B25s00Cg7c00B1stc0Cgkao0B1stc0Cg7c00B25s00Cg7c00B1stc0Cg7c00B25s00Cg7c00B25s00Cg7c00B1stc0Cg7c00B25s00Cg7c00B1stc0Cgkao0B1stc0Cg7c00B25s00Cg7c00B1stc0Cg7c00B25s00Cg7c00B1stc0Cgkao0B1stc0Cg7c00B25s00Cg7c00B1stc0Cgkao0B1stc0Cg7c00B25s00C;
Africa/Ceuta;-1276,0,3600,7200;u53if4B91vek0C7x3w0B2vt440C8sqs0Bssyk0C8n6s0B9px80C905g0Ba2yo0C902o0Bk69dc0C657w0B3ifxg0C3jp80Bva040C4qak0Be1ms0C7pp80Bcnms0C3afw0B2xi840C129us0D9d1c0C9d1c0D9d1c0C9d1c0D9d1c0C9d1c0D9d1c0C9d1c0D9q000C9d1c0D9d1c0C9d1c0D9d1c0C9d1c0D9d1c0C9d1c0D9d1c0C9d1c0D9d1c0C;1996,3600,7200,3,5,0,7200,10,5,0,10800
Africa/El_Aaiun;-3168,-3600,0,3600;1bd3y74Bm2g0c0Cvek0D4qak0Ce1ms0D7pp80Ccnms0D3afw0Cfke5g0D4qak0Ce1ms0D45x80Cd2g40D51ek0Cc8tg0D64ak0Ce1sc0D47uo0C1leo0D23xc0Casw00D3lmo0C1qyo0D40g00C7x6o0D4mo00C1stc0D4deo0C7x6o0D3ylc0C1stc0D51hc0C7x6o0D3lmo0C1stc0D5reo0C7k800D2vpc0C25s00D64dc0C7k800D2iqo0C1stc0Dgkao0C1stc0Dg7c00C25s00Dg7c00C1stc0Dg7c00C25s00Dg7c00C1stc0Dgkao0C1stc0Dg7c00C25s00Dg7c00C1stc0Dgkao0C1stc0Dg7c00C25s00Dg7c00C1stc0Dg7c00C25s00Dg7c00C1stc0Dgkao0C1stc0Dg7c00C25s00Dg7c00C1stc0Dg7c00C25s00Dg7c00C25s00Dg7c00C1stc0Dg7c00C25s00Dg7c00C1stc0Dgkao0C1stc0Dg7c00C25s00Dg7c00C1stc0Dg7c00C25s00Dg7c00C25s00Dg7c00C1stc0Dg7c00C25s00Dg7c00C1stc0Dgkao0C1stc0Dg7c00C25s00Dg7c00C1stc0Dg7c00C25s00Dg7c00C25s00Dg7c00C1stc0Dg7c00C25s00Dg7c00C1stc0Dgkao0C1stc0Dg7c00C25s00Dg7c00C1stc0Dg7c00C25s00Dg7c00C25s00Dg7c00C1stc0Dg7c00C25s00Dg7c00C1stc0Dgkao0C1stc0Dg7c00C25s00Dg7c00C1stc0Dg7c00C25s00Dg7c00C25s00Dg7c00C1stc0Dg7c00C25s00Dg7c00C1stc0Dgkao0C1stc0Dg7c00C25s00Dg7c00C1stc0Dg7c00C25s00Dg7c00C25s00Dg7c00C1stc0Dg7c00C25s00Dg7c00C1stc0Dgkao0C1stc0Dg7c00C25s00Dg7c00C1stc0Dg7c00C25s00Dg7c00C1stc0Dgkao0C1stc0Dg7c00C25s00Dg7c00C1stc0Dgkao0C1stc0Dg7c00C25s00D;
Africa/Johannesburg Africa/Maseru Africa/Mbabane;6720,5400,7200,10800;phyp8gB5rpt0oCkn7o60D9cyk0C9d440D9cyk0C;
Africa/Juba;7588,7200,10800;19sq38cBkixuysC8l6k0Ba4w40C8n180Ba6qs0C8n180Ba31g0C8ovw0Ba16s0C8qqk0B9zc40C8sl80B9xhg0C8wak0B9ts40C8y580Ba4w40C8n180Ba31g0C8ovw0Ba16s0C8sl80B9xhg0C8ufw0B9vms0C8wak0B9ts40C8y580Ba4w40C8ovw0Ba16s0C8qqk0B7frw40Cazg180B;
Africa/Khartoum;7808,7200,10800;19sq328Bkixv4wC8l6k0Ba4w40C8n180Ba6qs0C8n180Ba31g0C8ovw0Ba16s0C8qqk0B9zc40C8sl80B9xhg0C8wak0B9ts40C8y580Ba4w40C8n180Ba31g0C8ovw0Ba16s0C8sl80B9xhg0C8ufw0B9vms0C8wak0B9ts40C8y580Ba4w40C8ovw0Ba16s0C8qqk0B7frw40C9ac180B;
Africa/Lagos Africa/Bangui Africa/Brazzaville Africa/Douala Africa/Kinshasa Africa/Libreville Africa/Luanda Africa/Malabo Africa/Niamey Africa/Porto-Novo;815,0,1800,3600;whk8ghB1kdnanA2ve7ddC2yfgknD;
Africa/Maputo Africa/Blantyre Africa/Bujumbura Africa/Gaborone Africa/Harare Africa/Kigali Africa/Lubumbashi Africa/Lusaka;7818,7200;ybegdyB;
Africa/Monrovia;-2588,-2670,0;13mawf0Brl202aC;
Africa/Nairobi Africa/Addis_Ababa Africa/Asmara Africa/Asmera Africa/Dar_es_Salaam Africa/Djibouti Africa/Kampala Africa/Mogadishu Indian/Antananarivo Indian/Comoro Indian/Mayotte;8836,9000,10800,9900;xysq9oBaiwqjgCsg1a0B3nbte0D2wu1z0C;
Africa/Ndjamena;3612,3600,7200;zvqbmsBzdk5ccC7iak0B;
Africa/Sao_Tome;1616,-2205,0,3600;l9pbu8Bem12kwC1jbm840Dirxc0C;
Africa/Tripoli Libya;3164,3600,7200;1421fz8Bgl6ajwC422c0Bxado0C4bbo0Bwrpg0C4s580B1kdpg0Cc05bw0B4mqs0C9et80B9d440C9et80B9eys0C9et80B9mdg0C95jw0B9io40C9cyk0B99es0C9et80B9eys0C9et80B9d440C9et80Bb2840C3cf3w0B9kis0C855s40B75eo0C;
Africa/Tunis;2444,561,3600,7200;jw44j8Bfke44bCenxevlDb5uo0C53c00Du8w00C7x9g0Dc8w80C7k800Dz3w0Cew40D8bx80C9d440D9nx00C925o0D8l100Cgi3440D7k800Cb9k00D7vc00C51mw00D5ytc0C9d1c0D9d1c0Cb9k00D7thc0C7m0tc0D7tk40C93us0Db5uo0C7k800Db5uo0C7x6o0Dasw00C;
Africa/Windhoek;4104,5400,7200,10800,3600;phyr94B5rpr00Ckn7o60D9cyk0Cqm87w0E8lho0Cast80E7x9g0Cb5rw0E7kas0Cb5rw0E7x9g0Cast80E7x9g0Cast80E7x9g0Cast80E7x9g0Cast80E7x9g0Cb5rw0E7kas0Cb5rw0E7x9g0Cast80E7x9g0Cast80E7x9g0Cast80E7x9g0Cast80E7x9g0Cb5rw0E7x9g0Cast80E7x9g0Cast80E7x9g0Cast80E7x9g0Cast80E7x9g0Cb5rw0E7kas0Cb5rw0E7x9g0Cast80E7x9g0Cast80E7x9g0Cast80E7x9g0C;
America/Adak America/Atka US/Aleutian;44002,-42398,-39600,-36000,-32400;cta575Bh4z1xpCln70qaD1wd180Ccawis0D9cyk0C9d440D9cyk0C9d440D9px80C9d440D9cyk0C9d440D9cyk0C3lpg0Df4d80C64g40Dclmk0C9d440D9px80C905g0D9px80C9d440D9cyk0C9d440D9cyk0C9d440D9cyk0C9d440D9cyk0C9d440D9px80C905g0Dj2yk0E9cyk0D9d440E9cyk0D9d440E9cyk0D8a840Eafuk0D8a840East80D7x9g0East80D7x9g0East80D8a840Eafuk0D8a840Eafuk0D8a840East80D7x9g0East80D7x9g0East80D8a840Eafuk0D8a840Eafuk0D8a840Eafuk0D8a840East80D7x9g0East80D7x9g0East80D8a840Eafuk0D8a840Eafuk0D8a840East80D7x9g0East80D7x9g0East80D;2007,-36000,-32400,3,2,0,7200,11,1,0,7200
America/Anchorage US/Alaska;50424,-35976,-36000,-32400,-28800;cta575Bh4ywzbCln72woD1wd180Ccawis0D9cyk0C9d440D9cyk0C9d440D9px80C9d440D9cyk0C9d440D9cyk0C3lpg0Df4d80C64g40Dclmk0C9d440D9px80C905g0D9px80C9d440D9cyk0C9d440D9cyk0C9d440D9cyk0C9d440D9cyk0C9d440D9px80C905g0Dj2yk0E9cyk0D9d440E9cyk0D9d440E9cyk0D8a840Eafuk0D8a840East80D7x9g0East80D7x9g0East80D8a840Eafuk0D8a840Eafuk0D8a840East80D7x9g0East80D7x9g0East80D8a840Eafuk0D8a840Eafuk0D8a840Eafuk0D8a840East80D7x9g0East80D7x9g0East80D8a840Eafuk0D8a840Eafuk0D8a840East80D7x9g0East80D7x9g0East80D;2007,-32400,-28800,3,2,0,7200,11,1,0,7200
America/Araguaina;-11568,-10800,-7200;10xccogB99k8moC9a9c0B9io40C99980B8p65g0C6zuo0Bbs2o0C67zw0Bcjxg0C69uk0Bcjxg0C4ml80B5mf440C49mk0Bhaas0C316k0Bcls40C4ml80Bcls40C66580Bcls40C67zw0B981s40C6u7w0Bbiw40C5rbw0Bd0lg0C5ed80Bcyqs0C5ed80Bdbpg0C64ak0B2yl440C64ak0Bc8tg0C6u7w0Bbxpg0C7iak0Bbiw40C6u7w0Bbiw40C7k580Bbiw40C6u7w0Bc8tg0C6h980Bdbpg0C5ed80B51udg0C64ak0B;
America/Argentina/Buenos_Aires America/Buenos_Aires;-14028,-15408,-14400,-10800,-7200;qx7l8sBdb2bqcC5iv8k0D67zw0Ca4w40D73h80Ccls40D66580Ccls40D66580Ccls40D66580Ccls40D67zw0Ccls40D66580Ccls40D66580Ccls40D66580Ccls40D67zw0C6a040Dhy7w0C6a040Dxovw0C3uys0D18nbw0Cb0dg0D8ve2k0C3uys0D3yik0Cbqas0D71mk0Cbqas0D71mk0Cbqas0D8ovw0C9d440D9px80C9d440D9cyk0C9d440D28t6k0E51ek0D7m2qs0E4tzw0Dbiw40E776k0Dbvus0E6u7w0Dbvus0E6u7w0Dbvus0E776k0D7qcg40E3yik0Db5xg0E7k580D;
America/Argentina/Catamarca America/Argentina/ComodRivadavia America/Catamarca;-15788,-15408,-14400,-10800,-7200;qx7mloBdb2adgC5iv8k0D67zw0Ca4w40D73h80Ccls40D66580Ccls40D66580Ccls40D66580Ccls40D67zw0Ccls40D66580Ccls40D66580Ccls40D66580Ccls40D67zw0C6a040Dhy7w0C6a040Dxovw0C3uys0D18nbw0Cb0dg0D8ve2k0C3uys0D3yik0Cbqas0D71mk0Cbqas0D71mk0Cbqas0D8ovw0C9d440D9px80C9d440D9cyk0C9d440D28t6k0E51ek0D7m2qs0E4tzw0Dbiw40E776k0Dbvus0E6u7w0Cbvxk0E6u540Dbvus0E776k0D5v42s0Cz9g0D1u93w0E3yik0D;
America/Argentina/Cordoba America/Cordoba America/Rosario;-15408,-14400,-10800,-7200;1489wz4B5iv8k0C67zw0Ba4w40C73h80Bcls40C66580Bcls40C66580Bcls40C66580Bcls40C67zw0Bcls40C66580Bcls40C66580Bcls40C66580Bcls40C67zw0B6a040Chy7w0B6a040Cxovw0B3uys0C18nbw0Bb0dg0C8ve2k0B3uys0C3yik0Bbqas0C71mk0Bbqas0C71mk0Bbqas0C8ovw0B9d440C9px80B9d440C9cyk0B9d440C28t6k0D51ek0C7m2qs0D4tzw0Cbiw40D776k0Cbvus0D6u7w0Bbvxk0D6u540Cbvus0D776k0C7qcg40D3yik0Cb5xg0D7k580C;
America/Argentina/Jujuy America/Jujuy;-15672,-15408,-14400,-10800,-7200;qx7migBdb2agoC5iv8k0D67zw0Ca4w40D73h80Ccls40D66580Ccls40D66580Ccls40D66580Ccls40D67zw0Ccls40D66580Ccls40D66580Ccls40D66580Ccls40D67zw0C6a040Dhy7w0C6a040Dxovw0C3uys0D18nbw0Cb0dg0D8ve2k0C3uys0D3yik0Cbqas0D71mk0Cbqas0D71mk0Cbqas0D8ovw0C9d440D9px80C9d440D9cyk0C9d440D28t6k0E51ek0D7m2qs0E4tzw0Dbiw40E776k0Cc8w80D776k0Cag040E7k2g0Dbvus0E776k0D7qcg40E3yik0D;
America/Argentina/La_Rioja;-16044,-15408,-14400,-10800,-7200;qx7mssBdb2a6cC5iv8k0D67zw0Ca4w40D73h80Ccls40D66580Ccls40D66580Ccls40D66580Ccls40D67zw0Ccls40D66580Ccls40D66580Ccls40D66580Ccls40D67zw0C6a040Dhy7w0C6a040Dxovw0C3uys0D18nbw0Cb0dg0D8ve2k0C3uys0D3yik0Cbqas0D71mk0Cbqas0D71mk0Cbqas0D8ovw0C9d440D9px80C9d440D9cyk0C9d440D28t6k0E51ek0D7m2qs0E4tzw0Dbiw40E776k0Dbvus0E6qik0C3g880D8jbw0E6u7w0Dbvus0E776k0D5v42s0Cz9g0D1u93w0E3yik0D;
America/Argentina/Mendoza America/Mendoza;-16516,-15408,-14400,-10800,-7200;qx7n5wBdb29t8C5iv8k0D67zw0Ca4w40D73h80Ccls40D66580Ccls40D66580Ccls40D66580Ccls40D67zw0Ccls40D66580Ccls40D66580Ccls40D66580Ccls40D67zw0C6a040Dhy7w0C6a040Dxovw0C3uys0D18nbw0Cb0dg0D8ve2k0C3uys0D3yik0Cbqas0D71mk0Cbqas0D71mk0Cbqas0D8ovw0C9d440D9px80C9d440D9cyk0C9d440D28t6k0E51ek0D7m2qs0E4tzw0Dbiw40E776k0Cbktk0D71mk0Cbqas0D73h80Cbvus0E773s0D5unes0C6hes0D1p7mk0E3yik0D;
America/Argentina/Rio_Gallegos;-16612,-15408,-14400,-10800,-7200;qx7n8kBdb29qkC5iv8k0D67zw0Ca4w40D73h80Ccls40D66580Ccls40D66580Ccls40D66580Ccls40D67zw0Ccls40D66580Ccls40D66580Ccls40D66580Ccls40D67zw0C6a040Dhy7w0C6a040Dxovw0C3uys0D18nbw0Cb0dg0D8ve2k0C3uys0D3yik0Cbqas0D71mk0Cbqas0D71mk0Cbqas0D8ovw0C9d440D9px80C9d440D9cyk0C9d440D28t6k0E51ek0D7m2qs0E4tzw0Dbiw40E776k0Dbvus0E6u7w0Dbvus0E6u7w0Dbvus0E776k0D5v42s0Cz9g0D1u93w0E3yik0D;
America/Argentina/Salta;-15700,-15408,-14400,-10800,-7200;qx7mj8Bdb2afwC5iv8k0D67zw0Ca4w40D73h80Ccls40D66580Ccls40D66580Ccls40D66580Ccls40D67zw0Ccls40D66580Ccls40D66580Ccls40D66580Ccls40D67zw0C6a040Dhy7w0C6a040Dxovw0C3uys0D18nbw0Cb0dg0D8ve2k0C3uys0D3yik0Cbqas0D71mk0Cbqas0D71mk0Cbqas0D8ovw0C9d440D9px80C9d440D9cyk0C9d440D28t6k0E51ek0D7m2qs0E4tzw0Dbiw40E776k0Dbvus0E6u7w0Cbvxk0E6u540Dbvus0E776k0D7qcg40E3yik0D;
America/Argentina/San_Juan;-16444,-15408,-14400,-10800,-7200;qx7n3wBdb29v8C5iv8k0D67zw0Ca4w40D73h80Ccls40D66580Ccls40D66580Ccls40D66580Ccls40D67zw0Ccls40D66580Ccls40D66580Ccls40D66580Ccls40D67zw0C6a040Dhy7w0C6a040Dxovw0C3uys0D18nbw0Cb0dg0D8ve2k0C3uys0D3yik0Cbqas0D71mk0Cbqas0D71mk0Cbqas0D8ovw0C9d440D9px80C9d440D9cyk0C9d440D28t6k0E51ek0D7m2qs0E4tzw0Dbiw40E776k0Dbvus0E6qik0C3g880D8jbw0E6u7w0Dbvus0E776k0D5v2840C2txg0D1sgak0E3yik0D;
America/Argentina/San_Luis;-15924,-15408,-14400,-10800,-7200;qx7mpgBdb2a9oC5iv8k0D67zw0Ca4w40D73h80Ccls40D66580Ccls40D66580Ccls40D66580Ccls40D67zw0Ccls40D66580Ccls40D66580Ccls40D66580Ccls40D67zw0C6a040Dhy7w0C6a040Dxovw0C3uys0D18nbw0Cb0dg0D8ve2k0C3uys0D3yik0Cbqas0D71mk0Cbqas0D71mk0Cbqas0D8ovw0C9d440D9px80C9d440D9cyk0C9d440D28t6k0E51ek0D7m2qs0E4tzw0Dbiw40E7pp80Cb2aw0D71mk0C4qg40D6s8ik0C2txg0D1sgak0E14nw0D2gys0Cb5xg0D7k580Cb5xg0D;
America/Argentina/Tucuman;-15652,-15408,-14400,-10800,-7200;qx7mhwBdb2ah8C5iv8k0D67zw0Ca4w40D73h80Ccls40D66580Ccls40D66580Ccls40D66580Ccls40D67zw0Ccls40D66580Ccls40D66580Ccls40D66580Ccls40D67zw0C6a040Dhy7w0C6a040Dxovw0C3uys0D18nbw0Cb0dg0D8ve2k0C3uys0D3yik0Cbqas0D71mk0Cbqas0D71mk0Cbqas0D8ovw0C9d440D9px80C9d440D9cyk0C9d440D28t6k0E51ek0D7m2qs0E4tzw0Dbiw40E776k0Dbvus0E6u7w0Cbvxk0E6u540Dbvus0E776k0D5v42s0Cmas0D1um2k0E3yik0Db5xg0E7k580D;
America/Argentina/Ushuaia;-16392,-15408,-14400,-10800,-7200;qx7n2gBdb29woC5iv8k0D67zw0Ca4w40D73h80Ccls40D66580Ccls40D66580Ccls40D66580Ccls40D67zw0Ccls40D66580Ccls40D66580Ccls40D66580Ccls40D67zw0C6a040Dhy7w0C6a040Dxovw0C3uys0D18nbw0Cb0dg0D8ve2k0C3uys0D3yik0Cbqas0D71mk0Cbqas0D71mk0Cbqas0D8ovw0C9d440D9px80C9d440D9cyk0C9d440D28t6k0E51ek0D7m2qs0E4tzw0Dbiw40E776k0Dbvus0E6u7w0Dbvus0E6u7w0Dbvus0E776k0D5v0dg0C12ys0D1u93w0E3yik0D;
America/Asuncion;-13840,-14400,-10800;1a78rrkBldwofkCs4vw0Bs6w40C7tek0Bb0dg0C7rjw0Bb0dg0C7rjw0Bb0dg0C9cyk0B9eys0C9et80B9eys0C9cyk0B9eys0C9cyk0B9eys0C9cyk0B9eys0C9et80B9eys0C9cyk0B9eys0C9cyk0B9eys0C9cyk0B9eys0C9et80B9eys0C9cyk0Bahus0C8a2k0B9eys0C9cyk0B9o840C7k580Bb7s40C93p80B9gtg0C7nuk0Bb42s0C7lzw0Bb5xg0C7tek0Bb9ms0C776k0Bbiw40C7k580Bb5xg0C7x3w0Basys0C7x3w0Basys0C7x3w0Bb5xg0C9cyk0B7kas0Cb5rw0B7x9g0Cast80Ba31g0C7k580Bb5xg0C7k580Bb5xg0C7k580Bbiw40C776k0Bbiw40C776k0Bbiw40C8zzw0B905g0C9px80B905g0C9px80B9d440C8n180Ba31g0C8n180Ba31g0C8n180Ba31g0C8zzw0B9q2s0C8zzw0B9q2s0C8zzw0Ba31g0C8n180Ba31g0C8n180Ba31g0C8zzw0B9q2s0C8zzw0B9q2s0C8zzw0B9q2s0C8zzw0Ba31g0C;
America/Bahia;-9244,-10800,-7200;10xcavwB99kaf8C9a9c0B9io40C99980B8p65g0C6zuo0Bbs2o0C67zw0Bcjxg0C69uk0Bcjxg0C4ml80B5mf440C49mk0Bhaas0C316k0Bcls40C4ml80Bcls40C66580Bcls40C67zw0B981s40C6u7w0Bbiw40C5rbw0Bd0lg0C5ed80Bcyqs0C5ed80Bdbpg0C64ak0Bcyqs0C64ak0Bcls40C5rbw0Bdbpg0C51ek0Bdbpg0C6h980Bc8tg0C6h980Bc8tg0C64ak0Bc8tg0C6u7w0Bbxpg0C7iak0Bbiw40C6u7w0Bbiw40C7k580Bbiw40C6u7w0Bc8tg0C6h980Bdbpg0C5ed80B4irc40C6u7w0B;
America/Bahia_Banderas;-25260,-25200,-21600,-18000;153nr74B2u5s00C1si580B8jhg0C7x3w0B9eys0C591h80Bs5qoc0Cafuk0B8a840Cafuk0B8a840Cafuk0B8a840Cast80B7x9g0Cast80B9q2s0C7k580B9q2s0Cafuk0B8a840Cafuk0B8a840Cast80B7x9g0Cast80B7x9g0Cast80B7x9g0Cast80B8a840Cafuk0B8a840Cafuk0B8a840Dasqg0C7x9g0Dast80C7x9g0Dast80C8a840Dafuk0C8a840Dafuk0C8a840Dafuk0C8a840Dast80C7x9g0Dast80C7x9g0Dast80C8a840Dafuk0C8a840Dafuk0C8a840Dast80C7x9g0Dast80C;
America/Barbados;-14309,-14400,-10800,-12600;zp9dglBfzq06jC6w840Bcjrw0C6hes0Bb7mk0D7ves0Bh3dpc0C5rbw0Ba31g0C8n180Ba31g0C8n180Bag040C84ik0B;
America/Belem;-11636,-10800,-7200;10xccqcB99k8ksC9a9c0B9io40C99980B8p65g0C6zuo0Bbs2o0C67zw0Bcjxg0C69uk0Bcjxg0C4ml80B5mf440C49mk0Bhaas0C316k0Bcls40C4ml80Bcls40C66580Bcls40C67zw0B981s40C6u7w0Bbiw40C5rbw0Bd0lg0C5ed80B;
America/Belize;-21168,-21600,-19800,-18000;100fdf4B3edkc0C6ham0Bc8s20C6u9a0Bbvte0C6u9a0Bbvte0C6u9a0Bc8s20C6ham0Bc8s20C6ham0Bc8s20C6u9a0Bbvte0C6u9a0Bbvte0C6u9a0Bbvte0C6u9a0Bc8s20C6ham0Bc8s20C6ham0Bc8s20C6u9a0Bbvte0C6u9a0Bbvte0C6u9a0Bc8s20C6ham0Bc8s20C6ham0Bc8s20C6ham0Bc8s20C6u9a0Bbvte0C6u9a0Bbvte0C6u9a0Bc8s20C6ham0Bc8s20C6ham0Bc8s20C6u9a0B6uc20D1t67w0Bxulg0C6u9a0Bbvte0C6u9a0Bbvte0C6u9a0Bc8s20C6ham0Bc8s20C6ham0Bc8s20C6u9a0Bbvte0C6u9a0Bbvte0C6u9a0Bbvte0C6u9a0Bc8s20C6ham0Bc8s20C6ham0Bc8s20C6u9a0Bbvte0C6u9a0Bbvte0C6u9a0Bc8s20C6ham0Bc8s20C6ham0Bc8s20C6ham0Bc8s20C6u9a0Bbvte0C6u9a0Bbvte0C6u9a0Bc8s20C6ham0B319de0D3e580B4mcys0D2vmk0B;
America/Boa_Vista;-14560,-14400,-10800;10xcezkB99k93kC9a9c0B9io40C99980B8p65g0C6zuo0Bbs2o0C67zw0Bcjxg0C69uk0Bcjxg0C4ml80B5mf440C49mk0Bhaas0C316k0Bcls40C4ml80Bcls40C66580Bcls40C67zw0B981s40C6u7w0Bbiw40C5rbw0Bd0lg0C5ed80B62xk40C7k580Bbiw40Ccvw0B;
America/Bogota;-17776,-18000,-14400;11e46swB14f1hi8Ceefw0B;
America/Boise;-27889,-28800,-25200,-21600;l7hfb4Bhxltk0Cast80B7x9g0Cast80B1um840C9s7jw0D1wd180Cb9gdg0D9cyk0C9d440D9cyk0C9d440D9cyk0C9d440D9cyk0C9d440D9px80C9d440D9cyk0C9d440D9cyk0C51k40Ddoik0C64g40Dclmk0C9d440D9px80C905g0D9px80C9d440D9cyk0C9d440D9cyk0C9d440D9cyk0C9d440D9cyk0C9d440D9px80C905g0D9px80C9d440D9cyk0C9d440D9cyk0C9d440D9cyk0C8a840Dafuk0C8a840Dast80C7x9g0Dast80C7x9g0Dast80C8a840Dafuk0C8a840Dafuk0C8a840Dast80C7x9g0Dast80C7x9g0Dast80C8a840Dafuk0C8a840Dafuk0C8a840Dafuk0C8a840Dast80C7x9g0Dast80C7x9g0Dast80C8a840Dafuk0C8a840Dafuk0C8a840Dast80C7x9g0Dast80C7x9g0Dast80C;2007,-25200,-21600,3,2,0,7200,11,1,0,7200
America/Cambridge_Bay;0,-25200,-21600,-18000;1421if4Bbjeec0C1wd180Bdvfpg0C9cyk0B9d440C9cyk0B9d440C9cyk0B9d440C9cyk0B9d440C9px80B905g0C9px80B9d440C9cyk0B9d440C9cyk0B9d440C9cyk0B9d440C9cyk0B9d440C9px80B905g0C9px80B9d440C9cyk0B9d440C9cyk0B9d440C9cyk0B8a840Cafuk0B8a840Cast80B7x9g0Cast80B7x9g0Cast80B8a840Cafuk0B8a840Cafuk0B8a840Cast80B7x9g0Cast80B7x9g0Cast80B8a840Cafuk0B8a840Cafuk0B8a840Cafuk0B8a840Cipzw0Db5mc0Cidcc0B8a840Cafuk0B8a840Cafuk0B8a840Cast80B7x9g0Cast80B7x9g0Cast80B;2007,-25200,-21600,3,2,0,7200,11,1,0,7200
America/Campo_Grande;-13108,-14400,-10800;10xcdv8B99ka7wC9a9c0B9io40C99980B8p65g0C6zuo0Bbs2o0C67zw0Bcjxg0C69uk0Bcjxg0C4ml80B5mf440C49mk0Bhaas0C316k0Bcls40C4ml80Bcls40C66580Bcls40C67zw0B981s40C6u7w0Bbiw40C5rbw0Bd0lg0C5ed80Bcyqs0C5ed80Bdbpg0C64ak0Bcyqs0C64ak0Bcls40C5rbw0Bdbpg0C51ek0Bdbpg0C6h980Bc8tg0C6h980Bc8tg0C64ak0Bc8tg0C6u7w0Bbxpg0C7iak0Bbiw40C6u7w0Bbiw40C7k580Bbiw40C6u7w0Bc8tg0C6h980Bdbpg0C5ed80Bcls40C64ak0Bdfes0C5nmk0Bc8tg0C6h980Bdbpg0C5rbw0Bbvus0C6h980Bcls40C64ak0Bcls40C6h980Bc8tg0C6h980Bc8tg0C6u7w0Bc8tg0C64ak0Bcls40C64ak0Bcls40C6h980Bc8tg0C6h980Bc8tg0C6h980Bc8tg0C6h980Bdbpg0C5ed80B;
America/Cancun;-20824,-21600,-18000,-14400;153nof4Bvb0dk0Cj8d00B6x2wc0Cafuk0B8a840Cipzw0D64ak0C4bms0B8a840Cast80B7x9g0Cast80B9q2s0C7k580B9q2s0Cafuk0B8a840Cafuk0B8a840Cast80B7x9g0Cast80B7x9g0Cast80B7x9g0Cast80B8a840Cafuk0B8a840Cafuk0B8a840Cast80B7x9g0Cast80B7x9g0Cast80B8a840Cafuk0B8a840Cafuk0B51k40C;
America/Caracas;-16064,-16060,-16200,-14400;oegytcBbjfjzwCrlo83wDmeoxm0C4dps00D;
America/Cayenne;-12560,-14400,-10800;zm9xg0Btcw6r4C;
America/Chicago CST6CDT US/Central;-21036,-21600,-18000;l7h9r4Bhxltk0Cast80B7x9g0Cast80Bbvus0C776k0B7kas0Cb5rw0B9d440C7k580Bb5xg0C7x3w0Basys0C7x3w0Basys0C7x3w0Basys0C7x3w0Basys0C7x3w0Bb5xg0C7x3w0Basys0C7x3w0Basys0C7x3w0Basys0C7x3w0Basys0C7x3w0Bb5xg0C7k580Bb5xg0C7x3w0Basys0C7x3w0B7x9g0Cdbjw0B8a840C7x3w0Basys0C7x3w0Bb5xg0C7k580Bb5xg0C7x3w0Basys0C7x3w0B6w840C1wd180Basys0C7x3w0Basys0C7x3w0Basys0C7x3w0Basys0C7x3w0Bb5xg0C7k580Bb5xg0C7x3w0Basys0C7x3w0Basys0C7x3w0Basys0C7x3w0Basys0C9px80B9d440C9cyk0B9d440C9cyk0B9d440C9cyk0B9d440C9cyk0B9d440C9px80B9d440C9cyk0B9d440C9cyk0B9d440C9cyk0B9d440C9cyk0B9d440C9px80B905g0C9px80B9d440C9cyk0B9d440C9cyk0B9d440C9cyk0B9d440C9cyk0B9d440C9px80B9d440C9cyk0B9d440C9cyk0B3lpg0Cf4d80B64g40Cclmk0B9d440C9px80B905g0C9px80B9d440C9cyk0B9d440C9cyk0B9d440C9cyk0B9d440C9cyk0B9d440C9px80B905g0C9px80B9d440C9cyk0B9d440C9cyk0B9d440C9cyk0B8a840Cafuk0B8a840Cast80B7x9g0Cast80B7x9g0Cast80B8a840Cafuk0B8a840Cafuk0B8a840Cast80B7x9g0Cast80B7x9g0Cast80B8a840Cafuk0B8a840Cafuk0B8a840Cafuk0B8a840Cast80B7x9g0Cast80B7x9g0Cast80B8a840Cafuk0B8a840Cafuk0B8a840Cast80B7x9g0Cast80B7x9g0Cast80B;2007,-21600,-18000,3,2,0,7200,11,1,0,7200
America/Chihuahua;-25460,-25200,-21600,-18000;153nr74B2u5s00C1si580B8jhg0C7x3w0B9eys0Cxes2s0Dafuk0C8a840Dafuk0Ciq5g0B8a840Cast80B7x9g0Cast80B9q2s0C7k580B9q2s0Cafuk0B8a840Cafuk0B8a840Cast80B7x9g0Cast80B7x9g0Cast80B7x9g0Cast80B8a840Cafuk0B8a840Cafuk0B8a840Cast80B7x9g0Cast80B7x9g0Cast80B8a840Cafuk0B8a840Cafuk0B8a840Cafuk0B8a840Cast80B7x9g0Cast80B7x9g0Cast80B8a840Cafuk0B8a840Cafuk0B8a840Cast80B7x9g0C;
America/Ciudad_Juarez;-25556,-25200,-21600,-18000;153nr74B2u5s00C1si580B8jhg0C7x3w0B9eys0Cxes2s0Dafuk0C8a840Dafuk0Ciq5g0B8a840Cast80B7x9g0Cast80B9q2s0C7k580B9q2s0Cafuk0B8a840Cafuk0B8a840Cast80B7x9g0Cast80B7x9g0Cast80B7x9g0Cast80B8a840Cafuk0B8a840Cafuk0B77c40Cc8nw0B6hes0Cc8nw0B6hes0Cc8nw0B6hes0Cc8nw0B6hes0Cc8nw0B6hes0Cc8nw0B6udg0Cc8nw0B6hes0Cc8nw0B6hes0Cc8nw0B6hes0Cc8nw0B6hes0Cc8nw0B6udg0Cc8nw0B6hes0Cdgyc0B;2023,-25200,-21600,3,2,0,7200,11,1,0,7200
America/Costa_Rica;-20173,-21600,-18000;14llnbhBubtl3nC51ek0Bdoo40C51ek0B5jso40C8drw0Bacas0C2xh80B;
America/Coyhaique;-17296,-16965,-18000,-14400,-10800;oegzrkBag6l2tC3dlssrB157b79Df4e0rB49hzb9Daye0rC7ves0Dawik0C7ves0Dawik0C7ves0Dawik0C7ves0Dayd80C7ves0D534ik0C351g0D2fnh80C2mg00Db73400E7k580Dc8tg0E6h980Da31g0E7x3w0Dasys0E7x3w0Db5xg0E7k580Dag040E8a2k0Db5xg0E7k580Db5xg0E7x3w0Dasys0E7x3w0Dasys0E7x3w0Db5xg0E7k580Db5xg0E7k580Db5xg0E7x3w0Dasys0E7x3w0Dasys0E7x3w0Dasys0E7x3w0Db5xg0E7k580Db5xg0E7k580Db5xg0E9cyk0D9d440E7x3w0Dasys0E7x3w0Db5xg0E7k580D9q2s0E8zzw0Db5xg0E7x3w0Dasys0E7x3w0Dasys0E7x3w0Dasys0E7x3w0Db5xg0E7k580Db5xg0E8n180Da31g0E7x3w0Da31g0E9px80D9q2s0E7x3w0Db5xg0E7k580Db5xg0E7k580Db5xg0E7k580Db5xg0E7x3w0Dasys0E7x3w0Dasys0E7x3w0Db5xg0E7k580Db5xg0E8n180Da31g0E7x3w0Dasys0E8zzw0D9q2s0East80D5eis0Ecyl80D6hes0Ec8nw0D6udg0Ebvp80D6udg0Evonw0D4olg0Ee1h80D4olg0Ee1h80D4olg0Ec8nw0D7x9g0East80D7x9g0East80D7x9g0East80D8a840Eafuk0D7x9g0Eb5rw0D7x9g0E;
America/Cuiaba;-13460,-14400,-10800;10xce50B99k9y4C9a9c0B9io40C99980B8p65g0C6zuo0Bbs2o0C67zw0Bcjxg0C69uk0Bcjxg0C4ml80B5mf440C49mk0Bhaas0C316k0Bcls40C4ml80Bcls40C66580Bcls40C67zw0B981s40C6u7w0Bbiw40C5rbw0Bd0lg0C5ed80Bcyqs0C5ed80Bdbpg0C64ak0Bcyqs0C64ak0Bcls40C5rbw0Bdbpg0C51ek0Bdbpg0C6h980Bc8tg0C6h980Bc8tg0C64ak0Bc8tg0C6u7w0Bbxpg0C7iak0Bbiw40C6u7w0Bbiw40C7k580Bbiw40C6u7w0Bc8tg0C6h980Bdbpg0C5ed80Bw5hg0C5nmk0Bc8tg0C6h980Bdbpg0C5rbw0Bbvus0C6h980Bcls40C64ak0Bcls40C6h980Bc8tg0C6h980Bc8tg0C6u7w0Bc8tg0C64ak0Bcls40C64ak0Bcls40C6h980Bc8tg0C6h980Bc8tg0C6h980Bc8tg0C6h980Bdbpg0C5ed80B;
America/Danmarkshavn;-4480,-10800,-7200,0;129n37kBx8nx3kC8zrk0B9d1c0C9d1c0B9d1c0C9d1c0B9d1c0C9d1c0B9d1c0C9q000B9d1c0C9d1c0B9d1c0C9d1c0B9d1c0C9d1c0B9d1c0C9d1c0B9d1c0C9d1c0B9d1c0C9q000B9d1c0C9d1c0B9d1c0C9d1c0B9d1c0C9d1c0B9d1c0C9d1c0B9d1c0C9d1c0B53hk0D;
America/Dawson;-33460,-32400,-28800,-25200;ty82wkB97l62kCa2vw0Basys0C882c0Bbmiwc0C1wd180Ba7n3w0D9q000B465k00C3e2is0D9cyk0C9d440D9cyk0C9d440D9px80C905g0D9px80C9d440D9cyk0C9d440D9cyk0C9d440D9cyk0C8a840Dafuk0C8a840Dast80C7x9g0Dast80C7x9g0Dast80C8a840Dafuk0C8a840Dafuk0C8a840Dast80C7x9g0Dast80C7x9g0Dast80C8a840Dafuk0C8a840Dafuk0C8a840Dafuk0C8a840Dast80C7x9g0Dast80C7x9g0Dast80C8a840Dafuk0C8a840Dafuk0C8a840Dast80C7x9g0Dast80C7x9g0Dast80C6udg0Dc8nw0C6hes0Dc8nw0C6hes0Dc8nw0C6udg0Dc8nw0C6hes0Dc8nw0C6hes0Dc8nw0C6hes0Dc8nw0C6hes0Dc8nw0C6hes0Dc8nw0C6udg0Dc8nw0C6hes0Dc8nw0C6hes0Dc8nw0C6hes0Dc8nw0C6hes0D;
America/Dawson_Creek;-28856,-28800,-25200;l9pzcoBhw36ugCa2vw0Bc5jxg0C1wd180Btj1g0C7x3w0Basys0C7x3w0Basys0C7x3w0Bb5xg0C7k580Bb5xg0C7x3w0Basys0C7x3w0Basys0C7x3w0Basys0C7x3w0Basys0C7x3w0Bb5xg0C7x3w0Basys0C7x3w0Basys0C7x3w0Basys0C7x3w0Basys0C7x3w0Bb5xg0C7k580Bb5xg0C9cyk0B9d440C9cyk0B9d440C9cyk0B9d440C9px80B905g0C9px80B9d440C9cyk0B9d440C9cyk0B9d440C9cyk0B9d440C9cyk0B9d440C9px80B9d440C;
America/Denver America/Shiprock MST7MDT Navajo US/Mountain;-25196,-25200,-21600;l7hcj4Bhxltk0Cast80B7x9g0Cast80B7x9g0Cb5rw0B7kas0C2vmk0Bataw40C1wd180Ba7n9g0C9px80B905g0C9px80B9d440C9cyk0B9d440C9cyk0B9d440C9cyk0B9d440C9cyk0B9d440C9px80B9d440C9cyk0B9d440C9cyk0B3lpg0Cf4d80B64g40Cclmk0B9d440C9px80B905g0C9px80B9d440C9cyk0B9d440C9cyk0B9d440C9cyk0B9d440C9cyk0B9d440C9px80B905g0C9px80B9d440C9cyk0B9d440C9cyk0B9d440C9cyk0B8a840Cafuk0B8a840Cast80B7x9g0Cast80B7x9g0Cast80B8a840Cafuk0B8a840Cafuk0B8a840Cast80B7x9g0Cast80B7x9g0Cast80B8a840Cafuk0B8a840Cafuk0B8a840Cafuk0B8a840Cast80B7x9g0Cast80B7x9g0Cast80B8a840Cafuk0B8a840Cafuk0B8a840Cast80B7x9g0Cast80B7x9g0Cast80B;2007,-25200,-21600,3,2,0,7200,11,1,0,7200
America/Detroit US/Michigan;-19931,-21600,-18000,-14400;w89hsrB5eraudCdyeyk0D1wd180C1c9440D7x3w0C9rlbxoD71s2cC9d440D9cyk0C2cmdg0D9cyk0C3lpg0Df4d80C9d440D9cyk0C9d440D9px80C905g0D9px80C9d440D9cyk0C9d440D9cyk0C9d440D9cyk0C9d440D9cyk0C9d440D9px80C905g0D9px80C9d440D9cyk0C9d440D9cyk0C9d440D9cyk0C8a840Dafuk0C8a840Dast80C7x9g0Dast80C7x9g0Dast80C8a840Dafuk0C8a840Dafuk0C8a840Dast80C7x9g0Dast80C7x9g0Dast80C8a840Dafuk0C8a840Dafuk0C8a840Dafuk0C8a840Dast80C7x9g0Dast80C7x9g0Dast80C8a840Dafuk0C8a840Dafuk0C8a840Dast80C7x9g0Dast80C7x9g0Dast80C;2007,-18000,-14400,3,2,0,7200,11,1,0,7200
America/Edmonton America/Yellowknife Canada/Mountain;-27232,-25200,-21600;x3jkrkB629inkCa2vw0B8n6s0C29ek0Bh6lg0C9px80B905g0C7x3w0Bb5xg0C7k580Bb5xg0C7x3w0B9l0g40C1wd180Btj1g0C7x3w0Bctzk40C9cyk0B9d440C9cyk0B9d440C9cyk0B9d440C9cyk0B9d440C9px80B905g0C9px80B9d440C9cyk0B9d440C9cyk0B9d440C9cyk0B9d440C9cyk0B9d440C9px80B905g0C9px80B9d440C9cyk0B9d440C9cyk0B9d440C9cyk0B8a840Cafuk0B8a840Cast80B7x9g0Cast80B7x9g0Cast80B8a840Cafuk0B8a840Cafuk0B8a840Cast80B7x9g0Cast80B7x9g0Cast80B8a840Cafuk0B8a840Cafuk0B8a840Cafuk0B8a840Cast80B7x9g0Cast80B7x9g0Cast80B8a840Cafuk0B8a840Cafuk0B8a840Cast80B7x9g0Cast80B7x9g0Cast80B;2007,-25200,-21600,3,2,0,7200,11,1,0,7200
America/Eirunepe;-16768,-18000,-14400;10xcgowB99ka68C9a9c0B9io40C99980B8p65g0C6zuo0Bbs2o0C67zw0Bcjxg0C69uk0Bcjxg0C4ml80B5mf440C49mk0Bhaas0C316k0Bcls40C4ml80Bcls40C66580Bcls40C67zw0B981s40C6u7w0Bbiw40C5rbw0Bd0lg0C5ed80B2yy2s0C6h980B7hg2s0C2t2t80B;
America/El_Salvador;-21408,-21600,-18000;14kvqxsBymao5cC7k580Bb5xg0C7k580B;
America/Fort_Nelson;-29447,-28800,-25200;l9pzt3Bhw36e1Ca2vw0Bc5jxg0C1wd180Btj1g0C7x3w0Basys0C7x3w0Basys0C7x3w0Bb5xg0C7k580Bb5xg0C7x3w0Basys0C7x3w0Basys0C7x3w0Basys0C7x3w0Basys0C7x3w0Bb5xg0C7x3w0Basys0C7x3w0Basys0C7x3w0Basys0C7x3w0Basys0C7x3w0Bb5xg0C7k580Bb5xg0C9cyk0B9d440C9cyk0B9d440C9cyk0B9d440C9px80B905g0C9px80B9d440C9cyk0B9d440C9cyk0B9d440C9cyk0B9d440C9cyk0B9d440C9px80B9d440C9cyk0B9d440C9cyk0B9d440C9cyk0B9d440C9cyk0B9d440C9px80B905g0C9px80B9d440C9cyk0B9d440C9cyk0B9d440C9cyk0B9d440C9cyk0B9d440C9px80B905g0C9px80B9d440C9cyk0B9d440C9cyk0B9d440C9cyk0B8a840Cafuk0B8a840Cast80B7x9g0Cast80B7x9g0Cast80B8a840Cafuk0B8a840Cafuk0B8a840Cast80B7x9g0Cast80B7x9g0Cast80B8a840Cafuk0B8a840Cafuk0B8a840Cafuk0B8a840Cast80B7x9g0Cast80B7x9g0Cast80B8a840Cafuk0B8a840Cafuk0B8a840Cast80B7x9g0Cast80B7x9g0Cast80B6udg0Cc8nw0B6hes0Cc8nw0B6hes0Cc8nw0B6udg0Cc8nw0B6hes0Cc8nw0B6hes0Cc8nw0B6hes0Cc8nw0B6hes0Cc8nw0B6hes0C;
America/Fortaleza;-9240,-10800,-7200;10xcavsB99kafcC9a9c0B9io40C99980B8p65g0C6zuo0Bbs2o0C67zw0Bcjxg0C69uk0Bcjxg0C4ml80B5mf440C49mk0Bhaas0C316k0Bcls40C4ml80Bcls40C66580Bcls40C67zw0B981s40C6u7w0Bbiw40C5rbw0Bd0lg0C5ed80Bcyqs0C5ed80Bdbpg0C64ak0B514g40C7k580Bbiw40Cpuk0Bid6s0C6h980B;
America/Glace_Bay;-14388,-14400,-10800;uwdausB89fk8cCa2vw0Bc5jxg0C1wd180B3y8g40C7x3w0B9pa5g0C9cyk0B9d440C9cyk0B9d440C9cyk0B9d440C9cyk0B9d440C9px80B905g0C9px80B9d440C9cyk0B9d440C9cyk0B9d440C9cyk0B9d440C9cyk0B9d440C9px80B905g0C9px80B9d440C9cyk0B9d440C9cyk0B9d440C9cyk0B8a840Cafuk0B8a840Cast80B7x9g0Cast80B7x9g0Cast80B8a840Cafuk0B8a840Cafuk0B8a840Cast80B7x9g0Cast80B7x9g0Cast80B8a840Cafuk0B8a840Cafuk0B8a840Cafuk0B8a840Cast80B7x9g0Cast80B7x9g0Cast80B8a840Cafuk0B8a840Cafuk0B8a840Cast80B7x9g0Cast80B7x9g0Cast80B;2007,-14400,-10800,3,2,0,7200,11,1,0,7200
America/Goose_Bay;-14500,-12652,-9052,-12600,-9000,-14400,-10800,-7200;l9po9wBhw35goCa2vw0B8kjbw0DkzjykE7k580Db5xg0E7k580Db5xg0E7k580Dbiw40E776k0Dbiw40E7k580Db5xg0E7k580Db5xg0E1roo40Dbiw40E7k580Db5xg0E7k580Db5xg0E7k580Db5xg0E7k580Dbiw40E7k580Dag040E7x3w0Dasys0E7x3w0Dasys0E7x3w0Dasys0E7x3w0Dasys0E7x3w0Db5xg0E7x3w0Dasys0E7x3w0Dasys0E7x3w0Dasys0E7x3w0Dasys0E9px80D9d440E9cyk0D9d440E9cyk0D9d440E9cyk0D9d440E9cyk0D9d440E9px80D6y2s0F22420G9px80F9d440G9cyk0F9d440G9cyk0F9d440G9cyk0F9d440G9cyk0F9d440G9px80F9d440G9cyk0F9d440G9cyk0F9d440G9cyk0F9d440G9cyk0F9d440G9px80F905g0G9px80F9d440G9cyk0F9d440G9cyk0F9d440G9cyk0F9d440G9cyk0F9d440G9px80F905g0G9px80F9d440G9cyk0F9d440G9cyk0F9d440G9cyk0F8a2loGafuk0F8a840Hasqg0F7xc80Gast80F7x9g0Gast80F8a840Gafuk0F8a840Gafuk0F8a840Gast80F7x9g0Gast80F7x9g0Gast80F8a840Gafuk0F8a840Gafuk0F8a840Gafuk0F8a840Gast80F7x9g0Gast80F7x9g0Gast80F8a840Gafuk0F8a840Gafuk0F8a840Gast80F7x9g0Gast80F7x9g0Gast80F6udg0Gc8nw0F6hes0Gc8nw0F6hes0Gc8nw0F6udg0Gc8nw0F6hes0Gc8tecF;2012,-14400,-10800,3,2,0,7200,11,1,0,7200
America/Grand_Turk;-17072,-18430,-18000,-14400;oegzlcBbiv7pqCz3brw2D9cyk0C9d440D9cyk0C9d440D9cyk0C9d440D9px80C905g0D9px80C9d440D9cyk0C9d440D9cyk0C9d440D9cyk0C8a840Dafuk0C8a840Dast80C7x9g0Dast80C7x9g0Dast80C8a840Dafuk0C8a840Dafuk0C8a840Dast80C7x9g0Dast80C7x9g0Dast80C8a840Dafuk0C8a840Dafuk0C8a840Dafuk0C8a840Dast80C7x9g0Dast80C7x9g0Dast80C8a840Dafuk0C8a840Dafuk0C8a840Dast80C7x9g0Dast80C7x9g0Dast80C6udg0Dc8nw0C6hes0Dc8nw0C6hes0Dc8nw0C6udg0Dc8nw0C6hes0Dc8nw0C6hes0Dc8nw0C6hes0Dc8nw0C6hes0Dc8nw0C6hes0D;2018,-18000,-14400,3,2,0,7200,11,1,0,7200
America/Guatemala;-21724,-21600,-18000;13er36kBss0akkC4ofw0B4tidg0C6djw0B3wwas0C8n180B7n5ms0C7x3w0B;
America/Guayaquil;-19160,-18840,-18000,-14400;oeh17cBle9mf4Cwb620oD3jp80C;
America/Guyana;-13959,-14400,-13500,-10800;znvd6vB1va8c9Cvj6nb0D8p0jd0B;
America/Halifax Canada/Atlantic;-15264,-14400,-10800;uwdbj4B777go0C9et80Bst9o0Ca2vw0Bssyk0C5rbw0Bcv1g0C69uk0Bc6ys0C6kyk0Bci2s0C67zw0Bci2s0C6w2k0Bbu040C7lzw0Bbu040C66580Bbu040C7lzw0Bbu040C64ak0Bcls40C5v180Bcv1g0C6j3w0Bc6ys0C79180Bb42s0C7lzw0Bb42s0C7yyk0Bbu040C64ak0Bdbpg0C66580Bcls40C5ed80Bbu040C7lzw0Bb42s0C7lzw0Bcjxg0C66580Bbh1g0C7lzw0Bb42s0C7lzw0B6uj00C1wd180Basys0C7x3w0Basys0C7x3w0Basys0C7x3w0Basys0C7x3w0Btw040C7x3w0Basys0C7x3w0Basys0C7x3w0Basys0C7x3w0Btw040C7x3w0Basys0C7x3w0Basys0C7x3w0Basys0C7x3w0B1cm2s0C9cyk0B9d440C9cyk0B9d440C9cyk0B9d440C9px80B905g0C9px80B9d440C9cyk0B9d440C9cyk0B9d440C9cyk0B9d440C9cyk0B9d440C9px80B9d440C9cyk0B9d440C9cyk0B9d440C9cyk0B9d440C9cyk0B9d440C9px80B905g0C9px80B9d440C9cyk0B9d440C9cyk0B9d440C9cyk0B9d440C9cyk0B9d440C9px80B905g0C9px80B9d440C9cyk0B9d440C9cyk0B9d440C9cyk0B8a840Cafuk0B8a840Cast80B7x9g0Cast80B7x9g0Cast80B8a840Cafuk0B8a840Cafuk0B8a840Cast80B7x9g0Cast80B7x9g0Cast80B8a840Cafuk0B8a840Cafuk0B8a840Cafuk0B8a840Cast80B7x9g0Cast80B7x9g0Cast80B8a840Cafuk0B8a840Cafuk0B8a840Cast80B7x9g0Cast80B7x9g0Cast80B;2007,-14400,-10800,3,2,0,7200,11,1,0,7200
America/Havana Cuba;-19768,-19776,-18000,-14400;oeh1o8Bijto08C1icfyoD69uk0C62s040D4ofw0Ce1ms0D51ek0Ce1ms0D4ofw0C1fhs40D4ofw0Ce1ms0D4ofw0C9s9k40D67zw0Ccedg0D6h980C9o840D7yyk0Cb5xg0D7k580Cbvus0D9cyk0C9d440D9cyk0C9d440D9px80C9d440D8a2k0Cag040D8bx80Cae5g0D8drw0Cacas0D9cyk0C9d440D9px80C905g0D9px80C9q2s0D7x3w0C8a840Dast80C7x9g0Dast80Casys0D7x3w0Casys0D7x3w0Casys0D7x3w0Casys0D8a2k0Cag040D8a2k0C7x9g0Dast80C7x9g0Dast80C8a840Dafuk0C8a840Dafuk0C905g0Da2vw0C905g0D9q000C902o0D9q000C902o0D9q000C902o0D9q000C902o0D9q000C9d1c0D9d1c0C9d1c0D9q000C8n400Dasw00C7x6o0Db5uo0C7x6o0Dasw00C7x6o0Dasw00C8a5c0Dafxc0C8a5c0Dafxc0C7x6o0D1cm000C6uao0Dbvs00C779c0Dbitc0C6uao0Dbvs00C779c0Dbvs00C779c0Dc8qo0C779c0Db5uo0C;2013,-18000,-14400,3,2,0,0,11,1,0,3600
America/Hermosillo;-26632,-25200,-21600;153nr74B2u5s00C1si580B8jhg0C7x3w0B9eys0C591h80Bs5qoc0Cafuk0B8a840Cafuk0B8a840Cafuk0B;
America/Indiana/Indianapolis America/Fort_Wayne America/Indianapolis US/East-Indiana;-20678,-21600,-18000,-14400;l7h9r4Bhxltk0Cast80B7x9g0Cast80Bbaw840C51ek0B6w840C1wd180Basys0C7x3w0Basys0C7x3w0Basys0C7x3w0Basys0C7x3w0Bb5xg0C7k580Bb5xg0C7x3w0Basys0C7x3w0Basys0C7x3w0Basys0C7x3w0Basys0C19q7w0Basys0C5qonw0D9cyk0C9d440D9cyk0Cihslg0Dast80C;2007,-18000,-14400,3,2,0,7200,11,1,0,7200
America/Indiana/Knox America/Knox_IN US/Indiana-Starke;-20790,-21600,-18000;l7h9r4Bhxltk0Cast80B7x9g0Cast80Bbmtus0C1wd180Btj1g0C7x3w0Basys0C7x3w0Basys0C7x3w0Bb5xg0C7k580Bb5xg0C7x3w0Basys0C7x3w0Basys0C7x3w0Basys0C7x3w0Basys0C9px80B9d440C9cyk0B9d440C7x3w0Basys0C7x3w0Basys0C9cyk0B9d440C9px80B9d440C9cyk0B9d440Cs3180B1twas0C9cyk0B9d440C9cyk0B9d440C9cyk0B9d440C9cyk0B9d440C9px80B9d440C9cyk0B9d440C9cyk0B3lpg0Cf4d80B64g40Cclmk0B9d440C9px80B905g0C9px80B9d440C9cyk0B9d440C9cyk0B9d440C9cyk0B9d440C9cyk0B9d440C9px80B905g0C9px80B9d440C9cyk0B9d440C9cyk0B9d440C9cyk0B8a840Cafuk0B8a840Cast80B7x9g0Cast80B7x9g0Cast80B8a840C84duk0B;2007,-21600,-18000,3,2,0,7200,11,1,0,7200
America/Indiana/Marengo;-20723,-21600,-18000,-14400;l7h9r4Bhxltk0Cast80B7x9g0Cast80Bbmtus0C1wd180B2wsas0C7x3w0B1c9440C7x3w0Basys0C7x3w0Bb5xg0C7x3w0Basys0C7x3w0Basys0C7x3w0Basys0C7x3w0Basys0C7x3w0Bb5xg0C465h80D9cyk0C9d440D9cyk0C9d440D9px80C9d440D9cyk0C9d440D9cyk0Couis0Dclmk0Cfvt9g0Dast80C;2007,-18000,-14400,3,2,0,7200,11,1,0,7200
America/Indiana/Petersburg;-20947,-21600,-18000;l7h9r4Bhxltk0Cast80B7x9g0Cast80Bbmtus0C1wd180B501ek0C7kas0Bb5xg0C7x3w0Basys0C7x3w0Basys0C7x3w0Basys0C7x3w0Basys0C7x3w0Bb5xg0C9cyk0B9d440C9cyk0B9d440C9cyk0B9d440C9cyk0B9d440Csfzw0B9d440C9cyk0B9d440C9cyk0B9d440C9cyk0B9d440C9cyk0B9d440C9px80B9d440C9cyk0B9d440C9cyk0B3lpg0Cf4d80B64g40Cclmk0B9d440C9px80B905g0Cfeivw0B6udg0C;2008,-18000,-14400,3,2,0,7200,11,1,0,7200
America/Indiana/Tell_City;-20823,-21600,-18000,-14400;l7h9r4Bhxltk0Cast80B7x9g0Cast80Bbmtus0C1wd180B501ek0C7kas0Bb5xg0C7x3w0Basys0C7x3w0Basys0C7x3w0Basys0C7x3w0Basys0C7x3w0Bb5xg0C9cyk0B9d440C9cyk0B9d440C9cyk0B9d440C1tw580B9d440C9cyk0B9d440D9cvs0C9d440D9cyk0Cislhg0B;2007,-21600,-18000,3,2,0,7200,11,1,0,7200
America/Indiana/Vevay;-20416,-21600,-18000,-14400;l7h9r4Bhxltk0Cast80B7x9g0Cast80Bbmtus0C1wd180B4gyis0C7txx80D9cyk0C9d440D9cyk0C9d440D9px80C9d440D9cyk0Chfzhg0Dast80C;2007,-18000,-14400,3,2,0,7200,11,1,0,7200
America/Indiana/Vincennes;-21007,-21600,-18000,-14400;l7h9r4Bhxltk0Cast80B7x9g0Cast80Bbmtus0C1wd180Basys0C7x3w0B3fidg0C7x3w0Basys0C7x3w0Bb5rw0C7kas0Bb5xg0C7x3w0Basys0C7x3w0Basys0C7x3w0Basys0C7x3w0Basys0C9px80B9d440C7k580Bb5xg0C9cyk0B9d440C9cyk0B9d440C2lz980D9cyk0C9d440D9cyk0Cislhg0B6udg0C;2008,-18000,-14400,3,2,0,7200,11,1,0,7200
America/Indiana/Winamac;-20785,-21600,-18000,-14400;l7h9r4Bhxltk0Cast80B7x9g0Cast80Bbmtus0C1wd180Basys0C7x3w0Basys0C7x3w0Basys0C7x3w0Basys0C7x3w0Bb5xg0C7k580Bb5xg0C7x3w0Basys0C7x3w0Basys0C7x3w0Basys0C7x3w0Basys0C9px80B9d440C9cyk0B9d440C7x3w0Basys0C7x3w0Basys0C7x3w0Basys0C7x3w0Bb5xg0C465h80D9cyk0C9d440D9cyk0Cislhg0B6udg0Dc8l40C;2008,-18000,-14400,3,2,0,7200,11,1,0,7200
America/Inuvik;0,-28800,-25200,-21600;1la3qf4Ba34zs0C9cyk0B9d440C9cyk0B9d440C9cyk0B9d440C9cyk0B9d440C9px80B905g0C9px80B9d440C9cyk0B9d440D9cvs0C9d440D9cyk0C9d440D9cyk0C9d440D9px80C905g0D9px80C9d440D9cyk0C9d440D9cyk0C9d440D9cyk0C8a840Dafuk0C8a840Dast80C7x9g0Dast80C7x9g0Dast80C8a840Dafuk0C8a840Dafuk0C8a840Dast80C7x9g0Dast80C7x9g0Dast80C8a840Dafuk0C8a840Dafuk0C8a840Dafuk0C8a840Dast80C7x9g0Dast80C7x9g0Dast80C8a840Dafuk0C8a840Dafuk0C8a840Dast80C7x9g0Dast80C7x9g0Dast80C;2007,-25200,-21600,3,2,0,7200,11,1,0,7200
America/Iqaluit America/Pangnirtung;0,-14400,-18000,-21600;1fubl34B1nh7c0Cdvfpg0B9cyk0C9d440B9cyk0C9d440B9cyk0C9d440B9cyk0C9d440B9px80C905g0B9px80C9d440B9cyk0C9d440B9cyk0C9d440B9cyk0C9d440B9cyk0C9d440B9px80C905g0B9px80C9d440B9cyk0C9d440B9cyk0C9d440B9cyk0C8a840Bafuk0C8a840Bast80C7x9g0Bast80C7x9g0Bast80C8a840Bafuk0C8a840Bafuk0C8a840Bast80C7x9g0Bast80C7x9g0Bast80C8a840Bafuk0C8a840Bafuk0C8a840Bafuk0C8a840Bast80D7xc80Cipzw0Bast80C8a840Bafuk0C8a840Bafuk0C8a840Bast80C7x9g0Bast80C7x9g0Bast80C;2007,-18000,-14400,3,2,0,7200,11,1,0,7200
America/Jamaica Jamaica;-18430,-18000,-14400;zxc7b2Bwbl182Cf4d80B64g40Cclmk0B9d440C9px80B905g0C9px80B9d440C9cyk0B9d440C9cyk0B9d440C9cyk0B9d440C9cyk0B9d440C9px80B905g0C9px80B;
America/Juneau;54139,-32261,-28800,-25200,-32400;cta575Bh4yu44Cln707vD1wd180Ccawis0D9cyk0C9d440D9cyk0C9d440D9px80C9d440D9cyk0C9d440D9cyk0C3lpg0Df4d80C64g40Dclmk0C9d440D9px80C905g0D9px80C9d440D9cyk0C9d440D9cyk0Cs36s0D9cyk0C9d440D9px80C905g0D9px80E9d6w0C9cyk0E9d440C9cyk0E9d440C9cyk0E8a840Cafuk0E8a840Cast80E7x9g0Cast80E7x9g0Cast80E8a840Cafuk0E8a840Cafuk0E8a840Cast80E7x9g0Cast80E7x9g0Cast80E8a840Cafuk0E8a840Cafuk0E8a840Cafuk0E8a840Cast80E7x9g0Cast80E7x9g0Cast80E8a840Cafuk0E8a840Cafuk0E8a840Cast80E7x9g0Cast80E7x9g0Cast80E;2007,-32400,-28800,3,2,0,7200,11,1,0,7200
America/Kentucky/Louisville America/Louisville;-20582,-21600,-18000,-14400;l7h9r4Bhxltk0Cast80B7x9g0Cast80Bsg5g0C6bp80Ba98o40C7x3w0B6w840C1wd180Bast9oC1sw2cB21gis0C7k580Bb5xg0C7x3w0Basys0C7x3w0Basys0C7x3w0Basys0C7x3w0Basys0C7x3w0Bb5xg0C9cyk0B9d440C9cyk0B9d440C9cyk0B9d440C9cyk0B9d440C9px80B9d440C3nfek0D9cyk0C9d440D9cyk0C9d440D9cyk0C9d440D9px80C9d440D9cyk0C9d440D9cyk0Couis0Dclmk0C9d440D9px80C905g0D9px80C9d440D9cyk0C9d440D9cyk0C9d440D9cyk0C9d440D9cyk0C9d440D9px80C905g0D9px80C9d440D9cyk0C9d440D9cyk0C9d440D9cyk0C8a840Dafuk0C8a840Dast80C7x9g0Dast80C7x9g0Dast80C8a840Dafuk0C8a840Dafuk0C8a840Dast80C7x9g0Dast80C7x9g0Dast80C8a840Dafuk0C8a840Dafuk0C8a840Dafuk0C8a840Dast80C7x9g0Dast80C7x9g0Dast80C8a840Dafuk0C8a840Dafuk0C8a840Dast80C7x9g0Dast80C7x9g0Dast80C;2007,-18000,-14400,3,2,0,7200,11,1,0,7200
America/Kentucky/Monticello;-20364,-21600,-18000,-14400;l7h9r4Bhxltk0Cast80B7x9g0Cast80Bbmtus0C1wd180Bbs6g40C9cyk0B9d440C9cyk0B9d440C9cyk0B9d440C9px80B9d440C9cyk0B9d440C9cyk0B3lpg0Cf4d80B64g40Cclmk0B9d440C9px80B905g0C9px80B9d440C9cyk0B9d440C9cyk0B9d440C9cyk0B9d440C9cyk0B9d440C9px80B905g0C9px80B9d440C9cyk0B9d440C9cyk0B9d440C9cyk0B8a840Cafuk0B8a840Cast80B7x9g0Cast80B7x9g0Cast80B8a840Cafuk0B8a840Cafuk0B8a840Cast80B7x9g0Cast80B7x9g0Cast80B8a840Cafuk0B8a840Cafuk0B8a840Cafuk0B8a840Cast80B7x9g0Cipzw0Dast80C8a840Dafuk0C8a840Dafuk0C8a840Dast80C7x9g0Dast80C7x9g0Dast80C;2007,-18000,-14400,3,2,0,7200,11,1,0,7200
America/La_Paz;-16356,-12756,-14400;1a7i31gB84ik0C;
America/Lima;-18492,-18516,-18000,-14400;oeh0osB9ov9coCfcxjloD4ml80C93us0D9cyk0C9d440D9cyk0Cnw16s0D4ml80Ce5c40D4ml80C1fr1g0D4ml80C1yiys0D4ml80C;
America/Los_Angeles PST8PDT US/Pacific;-28378,-28800,-25200;l7hfb4Bhxltk0Cast80B7x9g0Cast80Bbmtus0C1wd180B1a3c5oCf2iicBowao0C7k800Bb5uo0C7x6o0Basw00C7x6o0Basw00C7x6o0Basw00C7x6o0Basw00C7x6o0Bb5uo0C7x6o0Basw00C7x6o0Basw00C7x6o0Basw00C7x6o0Basw00C7x6o0Bb5uo0C7k800Bb5uo0C9d1c0B9d1c0C9d1c0B9d1c0C9d1c0B9d1c0C9q000B902o0C9q000B9d440C9cyk0B9d440C9cyk0B9d440C9cyk0B9d440C9cyk0B9d440C9px80B9d440C9cyk0B9d440C9cyk0B3lpg0Cf4d80B64g40Cclmk0B9d440C9px80B905g0C9px80B9d440C9cyk0B9d440C9cyk0B9d440C9cyk0B9d440C9cyk0B9d440C9px80B905g0C9px80B9d440C9cyk0B9d440C9cyk0B9d440C9cyk0B8a840Cafuk0B8a840Cast80B7x9g0Cast80B7x9g0Cast80B8a840Cafuk0B8a840Cafuk0B8a840Cast80B7x9g0Cast80B7x9g0Cast80B8a840Cafuk0B8a840Cafuk0B8a840Cafuk0B8a840Cast80B7x9g0Cast80B7x9g0Cast80B8a840Cafuk0B8a840Cafuk0B8a840Cast80B7x9g0Cast80B7x9g0Cast80B;2007,-28800,-25200,3,2,0,7200,11,1,0,7200
America/Maceio;-8572,-10800,-7200;10xcad8B99kaxwC9a9c0B9io40C99980B8p65g0C6zuo0Bbs2o0C67zw0Bcjxg0C69uk0Bcjxg0C4ml80B5mf440C49mk0Bhaas0C316k0Bcls40C4ml80Bcls40C66580Bcls40C67zw0B981s40C6u7w0Bbiw40C5rbw0Bd0lg0C5ed80Bcyqs0C5ed80Bdbpg0C64ak0B2yl440C64ak0B1wf1g0C7k580Bbiw40Cpuk0Bid6s0C6h980B;
America/Managua;-20708,-20712,-21600,-18000;oeh2ecBn7jmo4Cka1i0oDxqqk0C24p6s0D53980Cdmtg0D53980C60itw0Ddq240C53es0D235h80C4beis0D8zzw0Cat4c0D7x140C;
America/Manaus Brazil/West;-14404,-14400,-10800;10xcev8B99k97wC9a9c0B9io40C99980B8p65g0C6zuo0Bbs2o0C67zw0Bcjxg0C69uk0Bcjxg0C4ml80B5mf440C49mk0Bhaas0C316k0Bcls40C4ml80Bcls40C66580Bcls40C67zw0B981s40C6u7w0Bbiw40C5rbw0Bd0lg0C5ed80B2yy2s0C6h980B;
America/Martinique;-14660,-14400,-10800;zj50ecBzz5x4sC8zzw0B;
America/Matamoros;-23400,-21600,-18000;153nof4Bykt480Cast80B3vppg0Cafuk0B8a840Cafuk0B8a840Cafuk0B8a840Cast80B7x9g0Cast80B9q2s0C7k580B9q2s0Cafuk0B8a840Cafuk0B8a840Cast80B7x9g0Cast80B7x9g0Cast80B7x9g0Cast80B8a840Cafuk0B8a840Cafuk0B;2010,-21600,-18000,3,2,0,7200,11,1,0,7200
America/Mazatlan Mexico/BajaSur;-25540,-25200,-21600;153nr74B2u5s00C1si580B8jhg0C7x3w0B9eys0C591h80Bs5qoc0Cafuk0B8a840Cafuk0B8a840Cafuk0B8a840Cast80B7x9g0Cast80B9q2s0C7k580B9q2s0Cafuk0B8a840Cafuk0B8a840Cast80B7x9g0Cast80B7x9g0Cast80B7x9g0Cast80B8a840Cafuk0B8a840Cafuk0B8a840Cast80B7x9g0Cast80B7x9g0Cast80B8a840Cafuk0B8a840Cafuk0B8a840Cafuk0B8a840Cast80B7x9g0Cast80B7x9g0Cast80B8a840Cafuk0B8a840Cafuk0B8a840Cast80B7x9g0Cast80B;
America/Menominee;-21027,-21600,-18000;m5xzz7Bgz53bxCast80B7x9g0Cast80Bbmtus0C1wd180Basys0C7x3w0Ba7n9g0C9px80B1at9g0C2cm7w0B3lpg0Cf4d80B64g40Cclmk0B9d440C9px80B905g0C9px80B9d440C9cyk0B9d440C9cyk0B9d440C9cyk0B9d440C9cyk0B9d440C9px80B905g0C9px80B9d440C9cyk0B9d440C9cyk0B9d440C9cyk0B8a840Cafuk0B8a840Cast80B7x9g0Cast80B7x9g0Cast80B8a840Cafuk0B8a840Cafuk0B8a840Cast80B7x9g0Cast80B7x9g0Cast80B8a840Cafuk0B8a840Cafuk0B8a840Cafuk0B8a840Cast80B7x9g0Cast80B7x9g0Cast80B8a840Cafuk0B8a840Cafuk0B8a840Cast80B7x9g0Cast80B7x9g0Cast80B;2007,-21600,-18000,3,2,0,7200,11,1,0,7200
America/Merida;-21508,-21600,-18000;153nof4Bvb0dk0Cfzuk0B70bes0Cafuk0B8a840Cafuk0B8a840Cafuk0B8a840Cast80B7x9g0Cast80B9q2s0C7k580B9q2s0Cafuk0B8a840Cafuk0B8a840Cast80B7x9g0Cast80B7x9g0Cast80B7x9g0Cast80B8a840Cafuk0B8a840Cafuk0B8a840Cast80B7x9g0Cast80B7x9g0Cast80B8a840Cafuk0B8a840Cafuk0B8a840Cafuk0B8a840Cast80B7x9g0Cast80B7x9g0Cast80B8a840Cafuk0B8a840Cafuk0B8a840Cast80B7x9g0Cast80B;
America/Metlakatla;54822,-31578,-28800,-25200,-32400;cta575Bh4ytl5Cln70quD1wd180Ccawis0D9cyk0C9d440D9cyk0C9d440D9px80C9d440D9cyk0C9d440D9cyk0C3lpg0Df4d80C64g40Dclmk0C9d440D9px80C905g0D9px80C9d440D9cyk0C9d440D9cyk0C9d440D9cyk0C9d440D9cyk0C9d440D9px80C905g0D9px80Cgpc840E6udg0Cc8nw0E6hes0Cc8nw0E6hes0Cg7980E2itg0Cc8nw0E;2020,-32400,-28800,3,2,0,7200,11,1,0,7200
America/Mexico_City Mexico/General;-23796,-25200,-21600,-18000;153nr74B2u5s00C1si580B8jhg0C7x3w0B9eys0C3knek0D776k0Crf440D5t6k0C1evk40D71mk0C30p1g0D8n180Cnufxo0Dafuk0C8a840Dafuk0C8a840Dafuk0C8a840Dast80C7x9g0Dast80C9q2s0D7k580C9q2s0Dafuk0C8a840Dafuk0C8a840Dast80C7x9g0Dast80C7x9g0Dast80C7x9g0Dast80C8a840Dafuk0C8a840Dafuk0C8a840Dast80C7x9g0Dast80C7x9g0Dast80C8a840Dafuk0C8a840Dafuk0C8a840Dafuk0C8a840Dast80C7x9g0Dast80C7x9g0Dast80C8a840Dafuk0C8a840Dafuk0C8a840Dast80C7x9g0Dast80C;
America/Miquelon;-13480,-14400,-10800,-7200;zlgbhkBzy4wpkC3m59g0Dafuk0C8a840Dast80C7x9g0Dast80C7x9g0Dast80C8a840Dafuk0C8a840Dafuk0C8a840Dast80C7x9g0Dast80C7x9g0Dast80C8a840Dafuk0C8a840Dafuk0C8a840Dafuk0C8a840Dast80C7x9g0Dast80C7x9g0Dast80C8a840Dafuk0C8a840Dafuk0C8a840Dast80C7x9g0Dast80C7x9g0Dast80C;2007,-10800,-7200,3,2,0,7200,11,1,0,7200
America/Moncton;-15548,-18000,-14400,-10800;l8j3r0B9nu9w4C89fhg0Da2vw0C7mqqo0D4ofw0Ce1ms0D4ofw0Ce1ms0D4ofw0Ce1ms0D4ofw0Ce1ms0D4ofw0Ce1ms0D4ofw0Cdmtg0D64ak0Ccao40D6fek0Cbkqs0D7iak0C6y5k0D1wd180Casys0D7x3w0Casys0D7x3w0Casys0D7x3w0Casys0D7x3w0Cb5xg0D7k580Cb5xg0D7x3w0Casys0D7x3w0Casys0D7x3w0Casys0D7x3w0Casys0D7x3w0Cb5xg0D7x3w0Casys0D9cyk0C9d440D9cyk0C9d440D9cyk0C9d440D9px80C9d440D9cyk0C9d440D9cyk0C9d440D9cyk0C9d440D9cyk0C9d440D9px80C905g0D9px80C9d440D9cyk0C9d440D9cyk0C9d440D9cyk0C9d440D9cyk0C9d440D9px80C9d440D9cyk0Cs36s0D9cyk0C9d440D9cyk0C9d440D9px80C905g0D9px80C9d440D9cyk0C9d440D9cyk0C9d440D9cyk0C9d440D9cyk0C9d440D9px80C905g0D9px80C9d440D9cyk0C9d440D9cyk0C9d440D9cyk0C8a840Dafuk0C8a840Dast80C7x9g0Dast80C7x9g0Dast80C8a840Dafuk0C8a840Dafuk0C8a2loDast80C7x9g0Dast80C7x9g0Dast80C8a840Dafuk0C8a840Dafuk0C8a840Dafuk0C8a840Dast80C7x9g0Dast80C7x9g0Dast80C8a840Dafuk0C8a840Dafuk0C8a840Dast80C7x9g0Dast80C7x9g0Dast80C;2007,-14400,-10800,3,2,0,7200,11,1,0,7200
America/Monterrey;-24076,-25200,-21600,-18000;153nof4B2u5us0C1si580B8jhg0C7x3w0B9eys0Ct89k40Dast80C3vppg0Dafuk0C8a840Dafuk0C8a840Dafuk0C8a840Dast80C7x9g0Dast80C9q2s0D7k580C9q2s0Dafuk0C8a840Dafuk0C8a840Dast80C7x9g0Dast80C7x9g0Dast80C7x9g0Dast80C8a840Dafuk0C8a840Dafuk0C8a840Dast80C7x9g0Dast80C7x9g0Dast80C8a840Dafuk0C8a840Dafuk0C8a840Dafuk0C8a840Dast80C7x9g0Dast80C7x9g0Dast80C8a840Dafuk0C8a840Dafuk0C8a840Dast80C7x9g0Dast80C;
America/Montevideo;-13491,-14400,-10800,-12600,-9000,-7200,-5400;1489vhvB1s74p9C9et80D9exe0C9czy0D9exe0C9czy0D3ydyq0C7x5a0Dasxe0C7x5a0Dasxe0C7x5a0Dasxe0C7x5a0Db5w20C7k6m0Db5w20C7k6m0D9q1e0C9czy0Dasxe0C7x5a0D6do20Cppvy0E4mmm0C8g9qq0E901a0C38pe0F2inw0C2nf9g0F8zzw0C1e3s40E9o3y0Cq8he0F2kik0Cyxhg0F4bh80Cs36s0G2vl60E905g0C5rg20F51ek0Cweqs0F3yik0Ce1ms0F4ofw0Cerk40F3yik0C2vs40Fgk7w0C41iys0F3wnw0Cerk40F4bh80Cc8tg0F64ak0Cc8tg0F6u7w0Cc8tg0F6h980Cbvus0F6u7w0C614qs0F9q2s0Ca31g0F7x3w0Cag040F8a2k0Casys0F7x3w0Casys0F7x3w0Casys0F8a2k0Cag040F8a2k0Cag040F8a2k0Casys0F7x3w0Casys0F7x3w0Casys0F7x3w0C;
America/New_York EST5EDT US/Eastern;-17762,-18000,-14400;l7h6z4Bhxltk0Cast80B7x9g0Cast80B7x9g0Cb5rw0B905g0C7x3w0Bb5xg0C7k580Bb5xg0C7x3w0Basys0C7x3w0Basys0C7x3w0Basys0C7x3w0Basys0C7x3w0Bb5xg0C7x3w0Basys0C7x3w0Basys0C7x3w0Basys0C7x3w0Basys0C7x3w0Bb5xg0C7k580Bb5xg0C7x3w0Basys0C7x3w0Basys0C7x3w0Basys0C7x3w0Basys0C7x3w0Bb5xg0C7k580Bb5xg0C7x3w0Basys0C7x3w0B6w840C1wd180Basys0C7x3w0Basys0C7x3w0Basys0C7x3w0Basys0C7x3w0Bb5xg0C7k580Bb5xg0C7x3w0Basys0C7x3w0Basys0C7x3w0Basys0C7x3w0Basys0C9px80B9d440C9cyk0B9d440C9cyk0B9d440C9cyk0B9d440C9cyk0B9d440C9px80B9d440C9cyk0B9d440C9cyk0B9d440C9cyk0B9d440C9cyk0B9d440C9px80B905g0C9px80B9d440C9cyk0B9d440C9cyk0B9d440C9cyk0B9d440C9cyk0B9d440C9px80B9d440C9cyk0B9d440C9cyk0B3lpg0Cf4d80B64g40Cclmk0B9d440C9px80B905g0C9px80B9d440C9cyk0B9d440C9cyk0B9d440C9cyk0B9d440C9cyk0B9d440C9px80B905g0C9px80B9d440C9cyk0B9d440C9cyk0B9d440C9cyk0B8a840Cafuk0B8a840Cast80B7x9g0Cast80B7x9g0Cast80B8a840Cafuk0B8a840Cafuk0B8a840Cast80B7x9g0Cast80B7x9g0Cast80B8a840Cafuk0B8a840Cafuk0B8a840Cafuk0B8a840Cast80B7x9g0Cast80B7x9g0Cast80B8a840Cafuk0B8a840Cafuk0B8a840Cast80B7x9g0Cast80B7x9g0Cast80B;2007,-18000,-14400,3,2,0,7200,11,1,0,7200
America/Nome;46702,-39698,-39600,-36000,-32400,-28800;cta575Bh4yzupCln72taD1wd180Ccawis0D9cyk0C9d440D9cyk0C9d440D9px80C9d440D9cyk0C9d440D9cyk0C3lpg0Df4d80C64g40Dclmk0C9d440D9px80C905g0D9px80C9d440D9cyk0C9d440D9cyk0C9d440D9cyk0C9d440D9cyk0C9d440D9px80C905g0D9px80E9cyk0F9cyk0E9d440F9cyk0E9d440F9cyk0E8a840Fafuk0E8a840Fast80E7x9g0Fast80E7x9g0Fast80E8a840Fafuk0E8a840Fafuk0E8a840Fast80E7x9g0Fast80E7x9g0Fast80E8a840Fafuk0E8a840Fafuk0E8a840Fafuk0E8a840Fast80E7x9g0Fast80E7x9g0Fast80E8a840Fafuk0E8a840Fafuk0E8a840Fast80E7x9g0Fast80E7x9g0Fast80E;2007,-32400,-28800,3,2,0,7200,11,1,0,7200
America/Noronha Brazil/DeNoronha;-7780,-7200,-3600;10xc9r8B99k8rwC9a9c0B9io40C99980B8p65g0C6zuo0Bbs2o0C67zw0Bcjxg0C69uk0Bcjxg0C4ml80B5mf440C49mk0Bhaas0C316k0Bcls40C4ml80Bcls40C66580Bcls40C67zw0B981s40C6u7w0Bbiw40C5rbw0Bd0lg0C5ed80Bcyqs0C5ed80Bdbpg0C64ak0B514g40C7k580Bbiw40Ccvw0Biq5g0C6h980B;
America/North_Dakota/Beulah;-24427,-25200,-21600;l7hcj4Bhxltk0Cast80B7x9g0Cast80Bbmtus0C1wd180Bb9gdg0C9cyk0B9d440C9cyk0B9d440C9cyk0B9d440C9cyk0B9d440C9px80B9d440C9cyk0B9d440C9cyk0B3lpg0Cf4d80B64g40Cclmk0B9d440C9px80B905g0C9px80B9d440C9cyk0B9d440C9cyk0B9d440C9cyk0B9d440C9cyk0B9d440C9px80B905g0C9px80B9d440C9cyk0B9d440C9cyk0B9d440C9cyk0B8a840Cafuk0B8a840Cast80B7x9g0Cast80B7x9g0Cast80B8a840Cafuk0B8a840Cafuk0B8a840Cast80B7x9g0Cast80B7x9g0Cast80B8a840Cafuk0B8a840Cafuk0B8a840Cafuk0B8a840Cast80B7x9g0Cast80B7x9g0Cast80B8a840Cafuk0B8a840Cafuk0B8a840Cast80B7x9g0Cast80B7x9g0Cast80B6udg0Cc8nw0B6hes0Cc8nw0B6hes0Cc8nw0B6udg0C;2011,-21600,-18000,3,2,0,7200,11,1,0,7200
America/North_Dakota/Center;-24312,-25200,-21600,-18000;l7hcj4Bhxltk0Cast80B7x9g0Cast80Bbmtus0C1wd180Bb9gdg0C9cyk0B9d440C9cyk0B9d440C9cyk0B9d440C9cyk0B9d440C9px80B9d440C9cyk0B9d440C9cyk0B3lpg0Cf4d80B64g40Cclmk0B9d440C9px80B905g0C9px80B9d440C9cyk0B9d440C9cyk0B9d440C9cyk0B9d440C9cyk0B9d440C9px80B905g0C9px80B9d440C9cyk0B9d440C9cyk0B9d440C9cyk0B8a840Cafuk0B8a840Cast80B7x9g0Cast80B7x9g0Cast80B8a840Cafuk0B8a840Cipzw0Dast80C7x9g0Dast80C7x9g0Dast80C8a840Dafuk0C8a840Dafuk0C8a840Dafuk0C8a840Dast80C7x9g0Dast80C7x9g0Dast80C8a840Dafuk0C8a840Dafuk0C8a840Dast80C7x9g0Dast80C7x9g0Dast80C;2007,-21600,-18000,3,2,0,7200,11,1,0,7200
America/North_Dakota/New_Salem;-24339,-25200,-21600,-18000;l7hcj4Bhxltk0Cast80B7x9g0Cast80Bbmtus0C1wd180Bb9gdg0C9cyk0B9d440C9cyk0B9d440C9cyk0B9d440C9cyk0B9d440C9px80B9d440C9cyk0B9d440C9cyk0B3lpg0Cf4d80B64g40Cclmk0B9d440C9px80B905g0C9px80B9d440C9cyk0B9d440C9cyk0B9d440C9cyk0B9d440C9cyk0B9d440C9px80B905g0C9px80B9d440C9cyk0B9d440C9cyk0B9d440C9cyk0B8a840Cafuk0B8a840Cast80B7x9g0Cast80B7x9g0Cast80B8a840Cafuk0B8a840Cafuk0B8a840Cast80B7x9g0Cast80B7x9g0Cast80B8a840Cafuk0B8a840Cafuk0B8a840Cafuk0B8a840Cast80B7x9g0Cast80B7x9g0Cast80B8a840Cafuk0B8a840Cipzw0Dast80C7x9g0Dast80C7x9g0Dast80C;2007,-21600,-18000,3,2,0,7200,11,1,0,7200
America/Nuuk America/Godthab;-12416,-10800,-7200;129n9c0Bx8nqz4C8zrk0B9d1c0C9d1c0B9d1c0C9d1c0B9d1c0C9d1c0B9d1c0C9q000B9d1c0C9d1c0B9d1c0C9d1c0B9d1c0C9d1c0B9d1c0C9d1c0B9d1c0C9d1c0B9d1c0C9q000B9d1c0C9d1c0B9d1c0C9d1c0B9d1c0C9d1c0B9d1c0C9d1c0B9d1c0C9d1c0B9q000Casw00B7x6o0Casw00B7x6o0Casw00B7x6o0Cb5uo0B7k800Cb5uo0B7k800Cb5uo0B7x6o0Casw00B7x6o0Casw00B7x6o0Cb5uo0B7k800Cb5uo0B7k800Cb5uo0B7k800Cb5uo0B7x6o0Casw00B7x6o0Casw00B7x6o0Cb5uo0B7k800Cb5uo0B7k800Cb5uo0B7x6o0Casw00B7x6o0Casw00B7x6o0Casw00B7x6o0Cb5uo0B7k800Cb5uo0B7k800Cb5uo0B7x6o0Casw00B7x6o0Casw00B7x6o0Cb5uo0B7k800Cb5uo0B7k800C;2024,-7200,-3600,3,5,0,-3600,10,5,0,0
America/Ojinaga;-25060,-25200,-21600,-18000;153nr74B2u5s00C1si580B8jhg0C7x3w0B9eys0Cxes2s0Dafuk0C8a840Dafuk0Ciq5g0B8a840Cast80B7x9g0Cast80B9q2s0C7k580B9q2s0Cafuk0B8a840Cafuk0B8a840Cast80B7x9g0Cast80B7x9g0Cast80B7x9g0Cast80B8a840Cafuk0B8a840Cafuk0B77c40Cc8nw0B6hes0Cc8nw0B6hes0Cc8nw0B6hes0Cc8nw0B6hes0Cc8nw0B6hes0Cc8nw0B6udg0Cc8nw0B6hes0Cc8nw0B6hes0Cc8nw0B6hes0Cc8nw0B6hes0Cc8nw0B6udg0Cc8nw0B6hes0C;2023,-21600,-18000,3,2,0,7200,11,1,0,7200
America/Panama America/Atikokan America/Cayman America/Coral_Harbour EST;-19088,-19176,-18000;oeh15cB9jvmqgC;
America/Paramaribo;-13240,-13252,-13236,-12600,-10800;zcyrawBcixc0cC5lydbkDkcrm6cE;
America/Phoenix America/Creston MST US/Arizona;-26898,-25200,-21600;l7hcj4Bhxltk0Cast80B7x9g0Cast80Bbmtus0CzjedoB4olg0C9et80Bbs6lmcC9cyk0B;
America/Port-au-Prince;-17360,-17340,-18000,-14400;oegztcBe4gmngCylcf6cD8zzw0C9d440D9cyk0C9d440D9cyk0C9d440D9cyk0C9d440D9cyk0C8aaw0Dasw00C7x6o0Dasw00C7x6o0Dasw00C8a5c0Dafxc0C8a5c0Dafxc0C8a5c0Dasw00C7x6o0Dasw00C7x6o0Dasw00C8a5c0Dafxc0C8a5c0Dafxc0C3vpjw0Dast80C7x9g0Dast80C2stv00Dc8nw0C6hes0Dc8nw0C6hes0Dc8nw0C6hes0Dc8nw0C;2017,-18000,-14400,3,2,0,7200,11,1,0,7200
America/Porto_Velho;-15336,-14400,-10800;10xcfl4B99k8i0C9a9c0B9io40C99980B8p65g0C6zuo0Bbs2o0C67zw0Bcjxg0C69uk0Bcjxg0C4ml80B5mf440C49mk0Bhaas0C316k0Bcls40C4ml80Bcls40C66580Bcls40C67zw0B981s40C6u7w0Bbiw40C5rbw0Bd0lg0C5ed80B;
America/Puerto_Rico America/Anguilla America/Antigua America/Aruba America/Blanc-Sablon America/Curacao America/Dominica America/Grenada America/Guadeloupe America/Kralendijk America/Lower_Princes America/Marigot America/Montserrat America/Port_of_Spain America/St_Barthelemy America/St_Kitts America/St_Lucia America/St_Thomas America/St_Vincent America/Tortola America/Virgin;-15865,-14400,-10800;t806ntBmhp1jbC1s3hg0B;
America/Punta_Arenas;-17020,-16965,-18000,-14400,-10800;oegzjwBag6lahC3dlssrB157b79Df4e0rB49hzb9Daye0rC7ves0Dawik0C7ves0Dawik0C7ves0Dawik0C7ves0Dayd80C7ves0D534ik0C351g0D2fnh80C2mg00Db73400E7k580Dc8tg0E6h980Da31g0E7x3w0Dasys0E7x3w0Db5xg0E7k580Dag040E8a2k0Db5xg0E7k580Db5xg0E7x3w0Dasys0E7x3w0Dasys0E7x3w0Db5xg0E7k580Db5xg0E7k580Db5xg0E7x3w0Dasys0E7x3w0Dasys0E7x3w0Dasys0E7x3w0Db5xg0E7k580Db5xg0E7k580Db5xg0E9cyk0D9d440E7x3w0Dasys0E7x3w0Db5xg0E7k580D9q2s0E8zzw0Db5xg0E7x3w0Dasys0E7x3w0Dasys0E7x3w0Dasys0E7x3w0Db5xg0E7k580Db5xg0E8n180Da31g0E7x3w0Da31g0E9px80D9q2s0E7x3w0Db5xg0E7k580Db5xg0E7k580Db5xg0E7k580Db5xg0E7x3w0Dasys0E7x3w0Dasys0E7x3w0Db5xg0E7k580Db5xg0E8n180Da31g0E7x3w0Dasys0E8zzw0D9q2s0East80D5eis0Ecyl80D6hes0Ec8nw0D6udg0Ebvp80D6udg0Evonw0D4olg0E;
America/Rankin_Inlet;0,-21600,-18000;1nd9af4B7zza80C9cyk0B9d440C9cyk0B9d440C9cyk0B9d440C9cyk0B9d440C9px80B905g0C9px80B9d440C9cyk0B9d440C9cyk0B9d440C9cyk0B9d440C9cyk0B9d440C9px80B905g0C9px80B9d440C9cyk0B9d440C9cyk0B9d440C9cyk0B8a840Cafuk0B8a840Cast80B7x9g0Cast80B7x9g0Cast80B8a840Cafuk0B8a840Cafuk0B8a840Cast80B7x9g0Cast80B7x9g0Cast80B8a840Cafuk0B8a840Cafuk0B8a840Cafuk0B8a840Cast80B7x9g0Ctivw0B8a840Cafuk0B8a840Cafuk0B8a840Cast80B7x9g0Cast80B7x9g0Cast80B;2007,-21600,-18000,3,2,0,7200,11,1,0,7200
America/Recife;-8376,-10800,-7200;10xca7sB99kb3cC9a9c0B9io40C99980B8p65g0C6zuo0Bbs2o0C67zw0Bcjxg0C69uk0Bcjxg0C4ml80B5mf440C49mk0Bhaas0C316k0Bcls40C4ml80Bcls40C66580Bcls40C67zw0B981s40C6u7w0Bbiw40C5rbw0Bd0lg0C5ed80Bcyqs0C5ed80Bdbpg0C64ak0B514g40C7k580Bbiw40Ccvw0Biq5g0C6h980B;
America/Regina Canada/Saskatchewan;-25116,-25200,-21600;wkrlssB6l1hmcCa2vw0B60enw0C7x3w0Basys0C7x3w0Basys0C7x3w0Bb5xg0C7k580Bb5xg0C7x3w0B1b6840C9cyk0B9d440C8zzw0B9q2s0C9cyk0B9q2s0C9cyk0B9d440C9cyk0B66gc0C1wd180Ba31g0C9cyk0Ba31g0C7x3w0Basys0C7x3w0Basys0C7x3w0Bb5xg0C7k580Bb5xg0C7x3w0Basys0C7x3w0Basys0C7x3w0Basys0C7x3w0Basys0C7x3w0Bb5xg0C7x3w0Basys0C7x3w0Btj1g0C9cyk0B9d440C;
America/Resolute;0,-21600,-18000;1ihsmf4Bcvfy80C9cyk0B9d440C9cyk0B9d440C9cyk0B9d440C9cyk0B9d440C9px80B905g0C9px80B9d440C9cyk0B9d440C9cyk0B9d440C9cyk0B9d440C9cyk0B9d440C9px80B905g0C9px80B9d440C9cyk0B9d440C9cyk0B9d440C9cyk0B8a840Cafuk0B8a840Cast80B7x9g0Cast80B7x9g0Cast80B8a840Cafuk0B8a840Cafuk0B8a840Cast80B7x9g0Cast80B7x9g0Cast80B8a840Cafuk0B8a840Cafuk0B8a840Cafuk0B8a840Cast80B7x9g0Ctivw0B8a840Cafuk0B8a840Cafuk0B8a840Cast80B7x9g0Cast80B7x9g0C;2007,-21600,-18000,3,2,0,7200,11,1,0,7200
America/Rio_Branco America/Porto_Acre Brazil/Acre;-16272,-18000,-14400;10xcgb4B99kak0C9a9c0B9io40C99980B8p65g0C6zuo0Bbs2o0C67zw0Bcjxg0C69uk0Bcjxg0C4ml80B5mf440C49mk0Bhaas0C316k0Bcls40C4ml80Bcls40C66580Bcls40C67zw0B981s40C6u7w0Bbiw40C5rbw0Bd0lg0C5ed80Bamves0C2t2t80B;
America/Santarem;-13128,-14400,-10800;10xcdvsB99ka7cC9a9c0B9io40C99980B8p65g0C6zuo0Bbs2o0C67zw0Bcjxg0C69uk0Bcjxg0C4ml80B5mf440C49mk0Bhaas0C316k0Bcls40C4ml80Bcls40C66580Bcls40C67zw0B981s40C6u7w0Bbiw40C5rbw0Bd0lg0C5ed80Bamves0C;
America/Santiago Chile/Continental;-16965,-18000,-14400,-10800;yunkudB3dlssrA157b79Cf4e0rA49hzb9Caye0rB7ves0Cawik0B7ves0Cawik0B7ves0Cawik0B7ves0Cayd80B7ves0C534ik0B351g0C229zw0D2b980Cb2840B2mg00Cb73400D7k580Cc8tg0D6h980Ca31g0D7x3w0Casys0D7x3w0Cb5xg0D7k580Cag040D8a2k0Cb5xg0D7k580Cb5xg0D7x3w0Casys0D7x3w0Casys0D7x3w0Cb5xg0D7k580Cb5xg0D7k580Cb5xg0D7x3w0Casys0D7x3w0Casys0D7x3w0Casys0D7x3w0Cb5xg0D7k580Cb5xg0D7k580Cb5xg0D9cyk0C9d440D7x3w0Casys0D7x3w0Cb5xg0D7k580C9q2s0D8zzw0Cb5xg0D7x3w0Casys0D7x3w0Casys0D7x3w0Casys0D7x3w0Cb5xg0D7k580Cb5xg0D8n180Ca31g0D7x3w0Ca31g0D9px80C9q2s0D7x3w0Cb5xg0D7k580Cb5xg0D7k580Cb5xg0D7k580Cb5xg0D7x3w0Casys0D7x3w0Casys0D7x3w0Cb5xg0D7k580Cb5xg0D8n180Ca31g0D7x3w0Casys0D8zzw0C9q2s0Dast80C5eis0Dcyl80C6hes0Dc8nw0C6udg0Dbvp80C6udg0Dvonw0C4olg0De1h80C4olg0De1h80C4olg0Dc8nw0C7x9g0Dast80C7x9g0Dast80C7x9g0Dast80C8a840D;2023,-14400,-10800,9,1,6,86400,4,1,6,86400
America/Santo_Domingo;-16776,-16800,-18000,-14400,-16200;oegzd4BmkixcoChiw29cD67zw0C1dy840E62ha0Ccnle0E4h2m0Celyq0E47ta0Cei9e0E4bim0Ceek20E4dda0Cecpe0Ddkmtg0C1stc0D;
America/Sao_Paulo Brazil/East;-11188,-10800,-7200;10xccdwB99k8x8C9a9c0B9io40C99980B8p65g0C6zuo0Bbs2o0C67zw0Bcjxg0C69uk0Bcjxg0C4ml80B5k02s0C6onw0Bhaas0C316k0Bcls40C4ml80Bcls40C66580Bcls40C67zw0B981s40C6u7w0Bbiw40C5rbw0Bd0lg0C5ed80Bcyqs0C5ed80Bdbpg0C64ak0Bcyqs0C64ak0Bcls40C5rbw0Bdbpg0C51ek0Bdbpg0C6h980Bc8tg0C6h980Bc8tg0C64ak0Bc8tg0C6u7w0Bbxpg0C7iak0Bbiw40C6u7w0Bbiw40C7k580Bbiw40C6u7w0Bc8tg0C6h980Bdbpg0C5ed80Bcls40C64ak0Bdfes0C5nmk0Bc8tg0C6h980Bdbpg0C5rbw0Bbvus0C6h980Bcls40C64ak0Bcls40C6h980Bc8tg0C6h980Bc8tg0C6u7w0Bc8tg0C64ak0Bcls40C64ak0Bcls40C6h980Bc8tg0C6h980Bc8tg0C6h980Bc8tg0C6h980Bdbpg0C5ed80B;
America/Scoresbysund;-5272,-7200,-3600,0;129n3tkBx8ntpkC902o0B9cvs0D9cyk0C9d1c0D9d1c0C9d1c0D9d1c0C9d1c0D9q000C9d1c0D9d1c0C9d1c0D9d1c0C9d1c0D9d1c0C9d1c0D9d1c0C9d1c0D9d1c0C9d1c0D9q000C9d1c0D9d1c0C9d1c0D9d1c0C9d1c0D9d1c0C9d1c0D9d1c0C9d1c0D9d1c0C9q000Dasw00C7x6o0Dasw00C7x6o0Dasw00C7x6o0Db5uo0C7k800Db5uo0C7k800Db5uo0C7x6o0Dasw00C7x6o0Dasw00C7x6o0Db5uo0C7k800Db5uo0C7k800Db5uo0C7k800Db5uo0C7x6o0Dasw00C7x6o0Dasw00C7x6o0Db5uo0C7k800Db5uo0C7k800Db5uo0C7x6o0Dasw00C7x6o0Dasw00C7x6o0Dasw00C7x6o0Db5uo0C7k800Db5uo0C7k800Db5uo0C7x6o0Dasw00C7x6o0Dasw00C7x6o0Db5uo0C7k800Db5uo0C7k800Db5uo0C;2024,-7200,-3600,3,5,0,-3600,10,5,0,0
America/Sitka;53927,-32473,-28800,-25200,-32400;cta575Bh4yua0Cln701zD1wd180Ccawis0D9cyk0C9d440D9cyk0C9d440D9px80C9d440D9cyk0C9d440D9cyk0C3lpg0Df4d80C64g40Dclmk0C9d440D9px80C905g0D9px80C9d440D9cyk0C9d440D9cyk0C9d440D9cyk0C9d440D9cyk0C9d440D9px80C905g0D9px80E9d6w0C9cyk0E9d440C9cyk0E9d440C9cyk0E8a840Cafuk0E8a840Cast80E7x9g0Cast80E7x9g0Cast80E8a840Cafuk0E8a840Cafuk0E8a840Cast80E7x9g0Cast80E7x9g0Cast80E8a840Cafuk0E8a840Cafuk0E8a840Cafuk0E8a840Cast80E7x9g0Cast80E7x9g0Cast80E8a840Cafuk0E8a840Cafuk0E8a840Cast80E7x9g0Cast80E7x9g0Cast80E;2007,-32400,-28800,3,2,0,7200,11,1,0,7200
America/St_Johns Canada/Newfoundland;-12652,-9052,-12600,-9000,-5400;12mpsekB8bx80Aar440Ba2vw0A9tjs0B53980Adkys0B9cyk0A9d440B9cyk0A9q2s0B8zzw0A9q2s0B8zzw0A9q2s0B8zzw0A9q2s0B8zzw0A9q2s0B9cyk0A9d440B9cyk0A9q2s0B8zzw0A9q2s0B8zzw0A9q2s0B8zzw0A9q2s0B8zzw0A9q2s0B9cyk0A9q2s0B8zzw0A9q2s0B8zzw0A7tmw0C1wfukD8zzw0Ca3480D7k580Cb5xg0D7k580Cb5xg0D7k580Cbiw40D776k0Cbiw40D7k580Cb5xg0D7k580Cb5xg0D1roo40Cbiw40D7k580Cb5xg0D7k580Cb5xg0D7k580Cb5xg0D7k580Cbiw40D7k580Cag040D7x3w0Casys0D7x3w0Casys0D7x3w0Casys0D7x3w0Casys0D7x3w0Cb5xg0D7x3w0Casys0D7x3w0Casys0D7x3w0Casys0D7x3w0Casys0D9px80C9d440D9cyk0C9d440D9cyk0C9d440D9cyk0C9d440D9cyk0C9d440D9px80C905g0D9px80C9d440D9cyk0C9d440D9cyk0C9d440D9cyk0C9d440D9cyk0C9d440D9px80C9d440D9cyk0C9d440D9cyk0C9d440D9cyk0C9d440D9cyk0C9d440D9px80C905g0D9px80C9d440D9cyk0C9d440D9cyk0C9d440D9cyk0C9d440D9cyk0C9d440D9px80C905g0D9px80C9d440D9cyk0C9d440D9cyk0C9d440D9cyk0C8a2loDafuk0C8a840Easqg0C7xc80Dast80C7x9g0Dast80C8a840Dafuk0C8a840Dafuk0C8a840Dast80C7x9g0Dast80C7x9g0Dast80C8a840Dafuk0C8a840Dafuk0C8a840Dafuk0C8a840Dast80C7x9g0Dast80C7x9g0Dast80C8a840Dafuk0C8a840Dafuk0C8a840Dast80C7x9g0Dast80C7x9g0Dast80C6udg0Dc8nw0C6hes0Dc8nw0C6hes0Dc8nw0C6udg0Dc8nw0C6hes0Dc8tecC;2012,-12600,-9000,3,2,0,7200,11,1,0,7200
America/Swift_Current;-25880,-25200,-21600;wkrme0B6l1h14Ca2vw0Bc5jxg0C1wd180Basys0C8n180Ba31g0C7x3w0Basys0C7x3w0Basys0C7x3w0B3yles0C9cyk0Bs36s0C9cyk0B9d440C7x3w0Bb5xg0C7k580B5j4lg0C;
America/Tegucigalpa;-20932,-21600,-18000;14piekkByho0ikC7k580Bb5xg0C7k580B96x1g0C4qak0B;
America/Thule;-16508,-14400,-10800;129nchoB12yzilgC9cyk0B9d440C9cyk0B9q2s0Cast80B7x9g0Cast80B7x9g0Cast80B8a840Cafuk0B8a840Cafuk0B8a840Cafuk0B8a840Cast80B7x9g0Cast80B7x9g0Cast80B8a840Cafuk0B8a840Cafuk0B8a840Cast80B7x9g0Cast80B7x9g0Cast80B;2007,-14400,-10800,3,2,0,7200,11,1,0,7200
America/Tijuana America/Ensenada America/Santa_Isabel Mexico/BajaNorte;-28084,-25200,-28800;153nr74B11juo0C1sm040B1si580C71s40B9cyk0C5iidg0B1ux6k0C18uw40Beluk0Coa5g0B7iak0Cb6300B7x3w0Casys0B7x3w0Ctiyo0B7x6o0Casw00B7x6o0Cb5uo0B7x6o0Casw00B7x6o0Casw00B7x6o0Casw00B7x6o0Casw00B7x6o0C84qys0B9px80C905g0B9px80C9d440B9cyk0C9d440B9cyk0C9d440B9cyk0C9d440B9cyk0C9d440B9px80C905g0B9px80C9d440B9cyk0C9d440B9cyk0C9d440B9cyk0C8a840Bafuk0C8a840Bast80C7x9g0Bast80C7x9g0Bast80C8a840Bafuk0C8a840Bafuk0C8a840Bast80C7x9g0Bast80C7x9g0Bast80C8a840Bafuk0C8a840Bafuk0C8a840Bafuk0C8a840Bast80C7x9g0Bast80C7x9g0Bast80C8a840Bafuk0C8a840Bafuk0C8a840Bast80C7x9g0Bast80C7x9g0Bast80C7x9g0Bast80C8a840Bafuk0C8a840Bafuk0C;2010,-28800,-25200,3,2,0,7200,11,1,0,7200
America/Toronto America/Montreal America/Nassau America/Nipigon America/Thunder_Bay Canada/Eastern;-19052,-18000,-14400;r0eigcBc5efesCa2vw0B7yx60Caqzy0B9q8c0C7jzo0Bbw0c0C6bp80Bcedg0C6h980Bc8tg0C6h980Bbvus0C776k0Bbiw40C776k0Bbiw40C776k0Bbiw40C7k580Bb5xg0C7x3w0Basys0C7x3w0Basys0C7x3w0Basys0C7x3w0Bb5xg0C7k580Bb5xg0C7x3w0Basys0C7x3w0Basys0C7x3w0Basys0C7x3w0Basys0C7x3w0Basys0C7x3w0Bb5xg0C7k580Bb5xg0C2twfw0Basys0C7x3w0Basys0C7x3w0Basys0C7x3w0Basys0Cb5rw0B7x9g0Cast80B7x9g0C7x3w0Basys0C7x3w0Basys0C7x3w0Basys0C7x3w0Basys0C7x3w0Bb5xg0C7x3w0Basys0C9cyk0B9d440C9cyk0B9d440C9cyk0B9d440C9px80B9d440C9cyk0B9d440C9cyk0B9d440C9cyk0B9d440C9cyk0B9d440C9px80B905g0C9px80B9d440C9cyk0B9d440C9cyk0B9d440C9cyk0B9d440C9cyk0B9d440C9px80B9d440C9cyk0B9d440C9cyk0B9d440C9cyk0B9d440C9cyk0B9d440C9px80B905g0C9px80B9d440C9cyk0B9d440C9cyk0B9d440C9cyk0B9d440C9cyk0B9d440C9px80B905g0C9px80B9d440C9cyk0B9d440C9cyk0B9d440C9cyk0B8a840Cafuk0B8a840Cast80B7x9g0Cast80B7x9g0Cast80B8a840Cafuk0B8a840Cafuk0B8a840Cast80B7x9g0Cast80B7x9g0Cast80B8a840Cafuk0B8a840Cafuk0B8a840Cafuk0B8a840Cast80B7x9g0Cast80B7x9g0Cast80B8a840Cafuk0B8a840Cafuk0B8a840Cast80B7x9g0Cast80B7x9g0Cast80B;2007,-18000,-14400,3,2,0,7200,11,1,0,7200
America/Vancouver Canada/Pacific;-29548,-28800,-25200;l9pzvwBhw36b8Ca2vw0Bc5jxg0C1wd180Basys0C7x3w0Basys0C7x3w0Basys0C7x3w0Basys0C7x3w0Bb5xg0C7k580Bb5xg0C7x3w0Basys0C7x3w0Basys0C7x3w0Basys0C7x3w0Basys0C7x3w0Bb5xg0C7x3w0Basys0C7x3w0Basys0C7x3w0Basys0C7x3w0Basys0C7x3w0Bb5xg0C7k580Bb5xg0C9cyk0B9d440C9cyk0B9d440C9cyk0B9d440C9px80B905g0C9px80B9d440C9cyk0B9d440C9cyk0B9d440C9cyk0B9d440C9cyk0B9d440C9px80B9d440C9cyk0B9d440C9cyk0B9d440C9cyk0B9d440C9cyk0B9d440C9px80B905g0C9px80B9d440C9cyk0B9d440C9cyk0B9d440C9cyk0B9d440C9cyk0B9d440C9px80B905g0C9px80B9d440C9cyk0B9d440C9cyk0B9d440C9cyk0B8a840Cafuk0B8a840Cast80B7x9g0Cast80B7x9g0Cast80B8a840Cafuk0B8a840Cafuk0B8a840Cast80B7x9g0Cast80B7x9g0Cast80B8a840Cafuk0B8a840Cafuk0B8a840Cafuk0B8a840Cast80B7x9g0Cast80B7x9g0Cast80B8a840Cafuk0B8a840Cafuk0B8a840Cast80B7x9g0Cast80B7x9g0Cast80B;2007,-28800,-25200,3,2,0,7200,11,1,0,7200
America/Whitehorse Canada/Yukon;-32412,-32400,-28800,-25200;ty823gB97l6voCa2vw0Basys0C882c0Bbmiwc0C1wd180Ba7n3w0D9q000B64dc0C7e3pg0D9cyk0C9d440D9cyk0C9d440D9px80C905g0D9px80C9d440D9cyk0C9d440D9cyk0C9d440D9cyk0C8a840Dafuk0C8a840Dast80C7x9g0Dast80C7x9g0Dast80C8a840Dafuk0C8a840Dafuk0C8a840Dast80C7x9g0Dast80C7x9g0Dast80C8a840Dafuk0C8a840Dafuk0C8a840Dafuk0C8a840Dast80C7x9g0Dast80C7x9g0Dast80C8a840Dafuk0C8a840Dafuk0C8a840Dast80C7x9g0Dast80C7x9g0Dast80C6udg0Dc8nw0C6hes0Dc8nw0C6hes0Dc8nw0C6udg0Dc8nw0C6hes0Dc8nw0C6hes0Dc8nw0C6hes0Dc8nw0C6hes0Dc8nw0C6hes0Dc8nw0C6udg0Dc8nw0C6hes0Dc8nw0C6hes0Dc8nw0C6hes0Dc8nw0C6hes0D;
America/Winnipeg America/Rainy_River Canada/Central;-23316,-21600,-18000;n46gesBf0j80cC7k580Btj700Ca2vw0B9ok840C6u7w0B2a5hg0C1wd180Bbiw40C7x3w0Ba31g0C7x3w0Basys0C7x3w0Basys0C7x3w0Bb7s40C7tek0Bautg0C7x3w0Basys0C7x3w0Basys0C7x3w0Basys0C7x3w0Basys0C7x3w0Bb5xg0C7x3w0Basys0C7x3w0Basys0C7x3w0Basys0C9cyk0B9d440C7x3w0B1cm2s0C7k580B1cm2s0C9q000B9d1c0C9d1c0B9d1c0C9d1c0B9d1c0C9d1c0B9d1c0C9d1c0B9d1c0C9q000B9d1c0C9d1c0B9d1c0C9d1c0B9d1c0C9d1c0B9d1c0C9d1c0B9d1c0C9q000B902o0C9q000B9d1c0C9d1c0B9d1c0C9d1c0B9d1c0C9d1c0B9d1c0C9d1c0B9d1c0C9q000B902o0C9q000B9d1c0C9d1c0B9d1c0C9d1c0B9d1c0C9d1c0B8a5c0Cafxc0B8a5c0Casw00B7x6o0Casw00B7x6o0Casw00B8a5c0Cafxc0B8a5c0Cafxc0B8a5c0Casw00B7x6o0Casw00B7x6o0Casw00B8a5c0Cafxc0B8a5c0Cafxc0B8a5c0Cafxc0B8a5c0Casw00B7x6o0Casw00B7x6o0Casw00B8a5c0Cafxc0B8a5c0Cafxc0B8a5c0Casw00B7x6o0Casw00B7x6o0Cast80B;2007,-21600,-18000,3,2,0,7200,11,1,0,7200
America/Yakutat;52865,-33535,-32400,-28800;cta575Bh4yv3iCln720hD1wd180Ccawis0D9cyk0C9d440D9cyk0C9d440D9px80C9d440D9cyk0C9d440D9cyk0C3lpg0Df4d80C64g40Dclmk0C9d440D9px80C905g0D9px80C9d440D9cyk0C9d440D9cyk0C9d440D9cyk0C9d440D9cyk0C9d440D9px80C905g0D9px80C9d440D9cyk0C9d440D9cyk0C9d440D9cyk0C8a840Dafuk0C8a840Dast80C7x9g0Dast80C7x9g0Dast80C8a840Dafuk0C8a840Dafuk0C8a840Dast80C7x9g0Dast80C7x9g0Dast80C8a840Dafuk0C8a840Dafuk0C8a840Dafuk0C8a840Dast80C7x9g0Dast80C7x9g0Dast80C8a840Dafuk0C8a840Dafuk0C8a840Dast80C7x9g0Dast80C7x9g0Dast80C;2007,-32400,-28800,3,2,0,7200,11,1,0,7200
Antarctica/Casey;0,28800,39600;1tmpyf4Blag4o0C73bo0Buz1o0C60l80B2fnh80Cpz9g0Bat4c0C89u80Bacgc0C80no0Basw1oC89wycBag5poC89wycBag5poC84lacB;
Antarctica/Davis;0,25200,18000;1ndvif4B42jdw0A27wgs0Bl8uss0C7eqs0Bunmk0C60qs0B;
Antarctica/Macquarie;0,36000,39600;tj6mf4B8ts4g0C902o0B11wns0Af4kh40Ba6p8g0C9d1c0Basw00C6uao0Bbvs00C6uao0Bbvs00C779c0Bbvs00C64dc0Bclpc0C6hc00Bc8qo0C6hc00Bc8qo0C6hc00Bc8qo0C6uao0Bc8qo0C6hc00Bc8qo0C6hc00Bc8qo0C6hc00Bc8qo0C6hc00Bc8qo0C6hc00Bc8qo0C7x6o0Bb5uo0C7k800Bb5uo0C6hc00Bc8qo0C6hc00Bc8qo0C6hc00Bbvs00C7k800Bbitc0C7k800Bbitc0C779c0Bbitc0C779c0Bbitc0C7x6o0B9q000C902o0B9q000C902o0B9q000C902o0B9q000C902o0B9q000C9d1c0B9q000C902o0B9q000C902o0B9q000C902o0B9q000C902o0B7x6o0Casw00Ba2yo0C902o0B9q000C902o0B9q000C902o0B9q000C902o0B9q000C9d1c0B9d1c0C902o0Ba2yo0C9d1c0B9d1c0C9d1c0B9d1c0C;2011,36000,39600,10,1,0,7200,4,1,0,10800
Antarctica/Mawson;0,21600,18000;1lv3af4Bt22y80C;
Antarctica/Palmer;0,-10800,-14400,-7200;1rjkef4B31ho0Cbqas0B71mk0Cbqas0B8ovw0C9d440B9px80C9d440B9cyk0C9d440B28t6k0D51ek0B46b6s0C8c2s0B7x3w0Casys0B7x3w0Cb5xg0B7k580Cb5xg0B7k580Cb5xg0B9cyk0C9d440B7x3w0Casys0B7x3w0Cb5xg0B7k580C9q2s0B8zzw0Cb5xg0B7x3w0Casys0B7x3w0Casys0B7x3w0Casys0B7x3w0Cb5xg0B7k580Cb5xg0B8n180Ca31g0B7x3w0Ca31g0B9px80C9q2s0B7x3w0Cb5xg0B7k580Cb5xg0B7k580Cb5xg0B7k580Cb5xg0B7x3w0Casys0B7x3w0Casys0B7x3w0Cb5xg0B7k580Cb5xg0B8n180Ca31g0B7x3w0Casys0B8zzw0C9q2s0Bast80C5eis0Bcyl80C6hes0Bc8nw0C6udg0Bbvp80C6udg0Bvonw0C4olg0B;
Antarctica/Rothera;0,-10800;1xrfnr4B;
Antarctica/Troll;0;;2005,0,7200,3,5,0,3600,10,5,0,10800
Antarctica/Vostok;0,25200,18000;1nv7l34Biushw0Ae23g0Bf79gs0C;
Asia/Almaty;18468,18000,21600,25200;16bgli4B37a0d0Cqi27w0D9et80C9d440D9et80C9d440D9et80C9eys0D9d6w0C9d1c0D9d1c0C9d1c0D9d1c0C9d1c0D9d1c0C9d1c0D9d1c0C9d1c0D9d1c0C9d1c0D9q000Ciq5g0B5reo0C3ljw0D9d1c0C9d1c0D9d1c0C9d1c0D9d1c0C9d1c0D9d1c0C9q000Dasw00C7x6o0Dasw00C7x6o0Dasw00C7x6o0Db5uo0C7k800Db5uo0C7k800Db5uo0C7x6o0Dasw00C7x6o0Dasw00C7x6o0Db5uo0Ca37rs0B;
Asia/Amman;8624,7200,10800;19sq2fkBm566fkC60l80Bawo40C7v980Bawo40C7v980Bayis0C9gnw0B9b9g0C7v980Bautg0C7v980B3e6840C9et80B9io40C9cyk0B9d440C9cyk0B9d440C9px80Bayis0C7rjw0Bag040C8a2k0B9zc40C8drw0Ba31g0C8zzw0B9d440C9cyk0B9d440C8n180Bag040C8a5c0Bafxc0C8n400Ba2yo0C8n400Ba2yo0C8n400Bepmo0C4deo0B9o5c0C9ew00B9b6o0C9ew00B9d1c0C9d1c0B9d1c0Casw00B7x6o0Cafxc0B8n400C9d1c0B9d1c0Casw00B7x6o0Casw00B7x6o0Cb5uo0B7k800Cb5uo0B7k800Cb5uo0B7x6o0Casw00B7x6o0Cwel80B51k40Cb5uo0B7k800Cb5uo0B7x6o0Casw00B7x6o0Casw00B7x6o0Casw00B7x6o0Casw00B7x6o0Cb5uo0B7k800Cb5uo0B64dc0C;
Asia/Anadyr;42596,43200,46800,50400,39600;16bg2vwB379zj8Cqi27w0D9et80Cis040B9d440C9et80B9eys0C9d6w0B9d1c0C9d1c0B9d1c0C9d1c0B9d1c0C9d1c0B9d1c0C9d1c0B9d1c0C9d1c0B9d1c0C9q000Biq5g0E5reo0B3ljw0C9d1c0B9d1c0C9d1c0B9d1c0C9d1c0B9d1c0C9d1c0B9q000Casw00B7x6o0Casw00B7x6o0Casw00B7x6o0Cb5uo0B7k800Cb5uo0B7k800Cb5uo0B7x6o0Casw00B7x6o0Casw00B7x6o0Cb5uo0B7k800Cb5uo0B7k800Cb5uo0B7k800Cb5uo0B7x6o0Casw00B7x6o0Casw00Bj3440E7k800B;
Asia/Aqtau;12064,14400,18000,21600;16bgqg0B379y74Cqrh3w0Diruk0C9d440D9et80C9eys0D9d6w0C9d1c0D9d1c0C9d1c0D9d1c0C9d1c0D9d1c0C9d1c0D9d1c0C9d1c0D9d1c0C9d1c0D9q000Ciq5g0B5reo0C3ljw0D9d1c0C9d1c0D9d1c0C9d1c0D9d1c0B9d440C9d1c0B9q000Casw00B7x6o0Casw00B7x6o0Casw00B7x6o0Cb5uo0B7k800Cb5uo0B7k800Cb5uo0B7x6o0Casw00B7x6o0Casw00B7x6o0C;
Asia/Aqtobe;13720,14400,18000,21600;16bgp60B379zh4Cqi27w0Ds6qk0C9d440D9et80C9eys0D9d6w0C9d1c0D9d1c0C9d1c0D9d1c0C9d1c0D9d1c0C9d1c0D9d1c0C9d1c0D9d1c0C9d1c0D9q000Ciq5g0B5reo0C3ljw0D9d1c0C9d1c0D9d1c0C9d1c0D9d1c0C9d1c0D9d1c0C9q000Dasw00C7x6o0Dasw00C7x6o0Dasw00C7x6o0Db5uo0C7k800Db5uo0C7k800Db5uo0C7x6o0Dasw00C7x6o0Dasw00C7x6o0Db5uo0C;
Asia/Ashgabat Asia/Ashkhabad;14012,14400,18000,21600;16bgoxwB379zp8Cqi27w0D9et80C9d440D9et80C9d440D9et80C9eys0D9d6w0C9d1c0D9d1c0C9d1c0D9d1c0C9d1c0D9d1c0C9d1c0D9d1c0C9d1c0D9d1c0C9d1c0D9q000Ciq5g0B5reo0C;
Asia/Atyrau;12464,10800,18000,21600,14400;16bgq4wB37a1a8Cqrh140Diruk0C9d440D9et80C9eys0D9d6w0C9d1c0D9d1c0C9d1c0D9d1c0C9d1c0D9d1c0C9d1c0D9d1c0C9d1c0D9d1c0C9d1c0D9q000Ciq5g0E5reo0C3ljw0D9d1c0C9d1c0D9d1c0C9d1c0D9d1c0C9d1c0D9d1c0C9q000Dasw00C7x6o0Dasw00C7x6o0Dasw00Cj3440E7k800Cb5uo0E7k800Cb5uo0E7x6o0Casw00E7x6o0Casw00E7x6o0C;
Asia/Baghdad;10660,10656,10800,14400;oege70Bem11c4Cxkn3w0D7v980C9b9g0D9gnw0C9eys0D9et80C9d440D9b9g0C9d1c0D9d1c0C9d1c0D9d1c0C9d1c0D9d1c0C9d1c0D9d1c0C9d1c0D9q000C9f1k0D9ew00C9ew00D9ew00C9d1c0D9ew00C9d1c0D9ew00C9d1c0D9ew00C9ew00D9ew00C9d1c0D9ew00C9d1c0D9ew00C9d1c0D9ew00C9ew00D9ew00C9d1c0D9ew00C9d1c0D9ew00C9d1c0D9ew00C9ew00D9ew00C9d1c0D9ew00C9d1c0D9ew00C9d1c0D9ew00C;
Asia/Baku;11964,10800,14400,18000;16bgqisBh4tkwcCckinw0D9et80C9d440D9et80C9d440D9et80C9eys0D9d6w0C9d1c0D9d1c0C9d1c0D9d1c0C9d1c0D9d1c0C9d1c0D9d1c0C9d1c0D9d1c0C9d1c0D9q000Ciq5g0B9d1c0C239ew0Dasw00C7x3w0Dasw00C7x6o0Dasw00C7x6o0Db5uo0C7k800Db5uo0C7k800Db5uo0C7x6o0Dasw00C7x6o0Dasw00C7x6o0Db5uo0C7k800Db5uo0C7k800Db5uo0C7k800Db5uo0C7x6o0Dasw00C7x6o0Dasw00C7x6o0Db5uo0C7k800Db5uo0C7k800Db5uo0C7x6o0Dasw00C7x6o0Dasw00C7x6o0Dasw00C;
Asia/Bangkok Asia/Phnom_Penh Asia/Vientiane Indian/Christmas;24124,25200;146pih0B;
Asia/Barnaul;20100,21600,25200,28800;140wc8sB5hu6ucCqi27w0D9et80C9d440D9et80C9d440D9et80C9eys0D9d6w0C9d1c0D9d1c0C9d1c0D9d1c0C9d1c0D9d1c0C9d1c0D9d1c0C9d1c0D9d1c0C9d1c0D9q000Ciq5g0B5reo0C3ljw0D9d1c0C9d1c0D9d1c0C9d1c0D9d1c0C9d1c0D38fo0C64og0B9q000Casw00B7x6o0Casw00B7x6o0Casw00B7x6o0Cb5uo0B7k800Cb5uo0B7k800Cb5uo0B7x6o0Casw00B7x6o0Casw00B7x6o0Cb5uo0B7k800Cb5uo0B7k800Cb5uo0B7k800Cb5uo0B7x6o0Casw00B7x6o0Casw00B7x6o0Cb5uo0B7k800C1vbzw0Bqnc40C;
Asia/Beirut;8520,7200,10800;j6jmigBkzyucoCaunw0B88dg0C9et80B8yas0Ca2vw0Ba31g0C7k580Bhjqo40C7v980Bawo40C7v980Bawo40C7v980Bayis0C7v980Bawo40C7v980B5lhs40C56yk0Bawo40C7v980Bawo40C7v980Bawo40C7v980Bayis0C7v980Bawo40C7v980Bautg0C7v980B2wxus0C8n180Ba4w40C8n180Ba4w40C8n180Ba4w40C8n180Bbs5g0C71mk0Balk40C86d80Ba4w40C8n180Ba4w40C8n180Ba6qs0C80t80B905g0C9cyk0B9d440C9cyk0B9d440C9cyk0B9q2s0C9cyk0B9d440C9cyk0B9d440C9cyk0B;1999,7200,10800,3,5,0,0,10,5,0,0
Asia/Bishkek;17904,18000,21600,25200;16bglxsB379zxcCqi27w0D9et80C9d440D9et80C9d440D9et80C9eys0D9d6w0C9d1c0D9d1c0C9d1c0D9d1c0C9d1c0D9d1c0C9d1c0D9d1c0C9d1c0D9d1c0C9d1c0D9q000Ch8dc0Bbkl80C8n180Ba31g0C8n180Ba31g0C8n180Ba31g0C8n180Ba31g0C8zzw0B9db20Cast80B7x9g0Cast80B7x9g0Cb5rw0B7kas0Cb5rw0B7kas0Cb5rw0B7x9g0Cast80B7x9g0Cast80B7x9g0Cb5rw0B7kas0C;
Asia/Chita;27232,28800,32400,36000;1415g2oB5hkxggCqi27w0D9et80C9d440D9et80C9d440D9et80C9eys0D9d6w0C9d1c0D9d1c0C9d1c0D9d1c0C9d1c0D9d1c0C9d1c0D9d1c0C9d1c0D9d1c0C9d1c0D9q000Ciq5g0B5reo0C3ljw0D9d1c0C9d1c0D9d1c0C9d1c0D9d1c0C9d1c0D9d1c0C9q000Dasw00C7x6o0Dasw00C7x6o0Dasw00C7x6o0Db5uo0C7k800Db5uo0C7k800Db5uo0C7x6o0Dasw00C7x6o0Dasw00C7x6o0Db5uo0C7k800Db5uo0C7k800Db5uo0C7k800Db5uo0C7x6o0Dasw00C7x6o0Dasw00C7x6o0Db5uo0C7k800D1vbzw0Bqnew0C;
Asia/Colombo;19164,19172,19800,21600,23400;j6jeasBdkh6nsCisle6kDcajy0E1mp2u0Cqetjw0E7x5a0D4xvqq0C;
Asia/Damascus;8712,7200,10800;1421bp4B5k6q0C8n180Ba31g0C8n180Ba31g0C8n180Ba31g0C8zzw0Bk4hk40C7yyk0Bawo40C7tek0Bb0dg0C7v980Bawo40C7tek0Balk40C887w0Bawo40C7v980Bayis0C7v980Bawo40C7v980Bawo40C7v980Bawo40C7v980Bayis0C7v980Bawo40C7v980Bawo40C7v980Bawo40C7v980Bayis0C7v980Bawo40C6bp80Bcg840C6bp80B2eh1g0C8zzw0B9ts40C8zzw0Bpvk40Cc33w0B7cw40Ccjrw0B6zxg0Cbtuk0B7rpg0C9gnw0B9d440C9cyk0B9et80C9et80B9rxg0C91uk0B92040C9et80B9o840C9et80B9d440C9et80B9eys0C9et80B9b9g0C9gnw0B99es0C9iik0B9d440C9et80B9eys0C9et80B9d440C9et80B9d440C9et80B9d440C9et80B9eys0C9et80B9d440C9et80B9d440C8y580B9q2s0Cb5rw0B7x9g0Caunw0B7ig40Cb5rw0B7x9g0Cast80B7x9g0Cast80B7x9g0Cast80B7x9g0Cast80B7x9g0Cb5rw0B7kas0Cb5rw0B7kas0Cb5rw0B7x9g0Cast80B7x9g0Cast80B7x9g0Cast80B7x9g0Cb5rw0B7kas0Cb5rw0B7kas0C;
Asia/Dhaka Asia/Dacca;21700,21200,23400,19800,21600,25200;oeg5ocBr080dwCbmgywD5lxg0C4qknw0Eu4ijy0Fa1400E;
Asia/Dili;30140,28800,32400;zvps74Bfqct80Chufs00Bcpz440C;
Asia/Dubai Asia/Muscat Indian/Mahe Indian/Reunion;13272,14400;142186gB;
Asia/Dushanbe;16512,18000,21600,25200;16bgn0gB379yuoCqi27w0D9et80C9d440D9et80C9d440D9et80C9eys0D9d6w0C9d1c0D9d1c0C9d1c0D9d1c0C9d1c0D9d1c0C9d1c0D9d1c0C9d1c0D9d1c0C9d1c0D9q000Chp440B;
Asia/Famagusta;8148,7200,10800;15165gsBrvhy2cC9cyk0Bb42s0C7nuk0B8yas0C8zzw0B9q2s0C9et80B9b9g0C9cyk0B9q2s0C8zzw0B9d440C9cyk0B9d440C9cyk0B9d440C9cyk0B9d440C9px80B9d440C9cyk0B9d440C9cyk0B9d440C9cyk0B9d440C9cyk0B9d440C9cyk0B9d440C9px80B9d440C9cyk0B9d440C9cyk0B9d440C9cyk0B9d440C9cyk0B9d440C9cyk0B9q2s0C9cyk0B9d440C9cyk0B9d440Cat4c0B7x6o0Cb5uo0B7k800Cb5uo0B7k800Cb5uo0B7x6o0Casw00B7x6o0Casw00B7x6o0Cb5uo0B7k800Cb5uo0B7k800Cb5uo0B7k800Cb5uo0B7x6o0Casw00B7x6o0Casw00B7x6o0Cb5uo0B7k800Cb5uo0B7k800Cb5uo0B7x6o0Casw00B7x6o0Casw00B7x6o0Casw00B7x6o0C;2017,7200,10800,3,5,0,10800,10,5,0,14400
Asia/Gaza;8272,7200,10800;u0cypcBkp9t1sC69xc0B2f1c0C10q800B7rmo0Cb0ao0B7thc0Cb0ao0B8jeo0Ca8io0B8jeo0Ca8io0B5hoig0C7el80Bawo40C7v980Bawqw0C7tk40Bb07w0C7tk40Bayd80C7tk40Bayd80C7tk40Bayd80C7tk40Bb07w0C7tk40Bayd80C7tk40Bayd80C7ves0Bawik0C1sns0B3p6is0C51ek0B9q2s0C6u7w0B2kjk40C25s00B1weyo0C5reo0Bbvs00C776k0Bdbpg0C5rbw0Bbbhg0C7rjw0Basys0C7k580Bc8tg0C6h980Bag040C7x3w0Basys0C8a2k0Basys0C8a2k0Bap9g0C80t80Bap9g0C7nuk0Bb2840C80t80Bb2840C8n400Ba2yo0C8n400Ba2yo0C8n400Basw00C9cyk0B9q2s0C9cyk0B9d440C9cyk0B9d440C9cyk0B9d440C9cyk0B9d440C8n400Ba2yo0C8ulg0B97ek0C8y580B9ts40C8hms0Ba4qk0C7x3w0Basys0C8a5c0Bahs1oC71micBbzk5oC69uicBcg840C902o0B9q000C9cyk0B9d440Cast80B7z440Car1c0B7z440Cb5rw0B7kas0Cb5rw0B7kas0Cb5rw0B7vc00Caunw0B7x9g0Casw00B7x6o0Cb4000B7nxc0Cb42s0B9d440C9cyk0B905g0C9px80B8n6s0Ca2vw0B7x9g0Cast80B7x9g0Cb5rw0B7kas0Cb5rw0B7kas0Cb5rw0B7x9g0Cast80B7x9g0Cast80B7x9g0Cb5rw0B7kas0Cb5rw0B7kas0Cb5rw0B7kas0Cb5rw0B7x9g0Cafuk0B8a840Ca2vw0B8n6s0C9cyk0B9d440C8zzw0B9q2s0C8a2k0B2itg0Ccvw0B7x9g0C7k580B25us0C12t80B7x9g0C776k0B25us0C1frw0B7x9g0C6h980B2itg0C1sqk0B7x9g0C64ak0B25us0C2vmk0B7kas0C5rbw0B25us0C38l80B7kas0C51ek0B2itg0C3ljw0B7x9g0C4bh80B25us0C4bh80B7x9g0C3ljw0B2itg0C4ofw0B7x9g0C38l80B25us0C5rbw0B7kas0C2vmk0B25us0C64ak0B7kas0C25p80B2itg0C6h980B7x9g0C1frw0B25us0C776k0B7x9g0Cpuk0B2itg0C7k580B7x9g0Ccvw0B2itg0C7x3w0Ba31g0C8zzw0B9d440C9cyk0B8n6s0Ca2vw0B8a840Cafuk0B7x9g0Cast80B7x9g0Cb5rw0B7kas0Cb5rw0B7kas0Cb5rw0B7kas0Cb5rw0B7x9g0Cast80B7x9g0Cast80B7x9g0Cb5rw0B7kas0Cb5rw0B7kas0Cast80B8a840Ca2vw0B8n6s0C9px80B905g0C8zzw0B9q2s0C8n180B25us0Ccvw0B7kas0C8a2k0B25us0Cpuk0B7kas0C7k580B2itg0C12t80B7x9g0C6u7w0B25us0C1sqk0B7x9g0C64ak0B2itg0C25p80B7x9g0C5rbw0B2itg0C2vmk0B7kas0C5ed80B25us0C3ljw0B7kas0C4ofw0B2itg0C3yik0B7x9g0C3yik0B25us0C4ofw0B7x9g0C3ljw0B25us0C51ek0B7x9g0C2vmk0B2itg0C5ed80B7x9g0C2inw0B25us0C6h980B7kas0C1sqk0B2itg0C6u7w0B7kas0C1frw0B2itg0C776k0B7x9g0Cpuk0B25us0C7x3w0B;2087,7200,10800,3,4,4,180000,10,4,4,180000
Asia/Hebron;8423,7200,10800;u0cyl5Bkp9t5zC69xc0B2f1c0C10q800B7rmo0Cb0ao0B7thc0Cb0ao0B8jeo0Ca8io0B8jeo0Ca8io0B5hoig0C7el80Bawo40C7v980Bawqw0C7tk40Bb07w0C7tk40Bayd80C7tk40Bayd80C7tk40Bayd80C7tk40Bb07w0C7tk40Bayd80C7tk40Bayd80C7ves0Bawik0C1sns0B3p6is0C51ek0B9q2s0C6u7w0B2kjk40C25s00B1weyo0C5reo0Bbvs00C776k0Bdbpg0C5rbw0Bbbhg0C7rjw0Basys0C7k580Bc8tg0C6h980Bag040C7x3w0Basys0C8a2k0Basys0C8a2k0Bap9g0C80t80Bap9g0C7nuk0Bb2840C80t80Bb2840C8n400Ba2yo0C8n400Ba2yo0C8n400Basw00C9cyk0B9q2s0C9cyk0B9d440C9cyk0B9d440C9cyk0B9d440C9cyk0B9d440C8n400Ba2yo0C8ulg0B97ek0C8y580B9ts40C8hms0Ba4qk0C82nw0Banes0C8a5c0Bafxc0C73h80Bbzk5oC69uicB1hs40C1lbw0B9d440C902o0B9q000C9cyk0B9d440Cast80B7z440Car1c0B7z440Cb5rw0B7kas0Cb5rw0B7kas0Cb5rw0B7vc00Caunw0B7x9g0Casw00B7x6o0Cb4000B7nxc0Cb42s0B9d440C9cyk0B905g0C9px80B8n6s0Ca2vw0B7x9g0Cast80B7x9g0Cb5rw0B7kas0Cb5rw0B7kas0Cb5rw0B7x9g0Cast80B7x9g0Cast80B7x9g0Cb5rw0B7kas0Cb5rw0B7kas0Cb5rw0B7kas0Cb5rw0B7x9g0Cafuk0B8a840Ca2vw0B8n6s0C9cyk0B9d440C8zzw0B9q2s0C8a2k0B2itg0Ccvw0B7x9g0C7k580B25us0C12t80B7x9g0C776k0B25us0C1frw0B7x9g0C6h980B2itg0C1sqk0B7x9g0C64ak0B25us0C2vmk0B7kas0C5rbw0B25us0C38l80B7kas0C51ek0B2itg0C3ljw0B7x9g0C4bh80B25us0C4bh80B7x9g0C3ljw0B2itg0C4ofw0B7x9g0C38l80B25us0C5rbw0B7kas0C2vmk0B25us0C64ak0B7kas0C25p80B2itg0C6h980B7x9g0C1frw0B25us0C776k0B7x9g0Cpuk0B2itg0C7k580B7x9g0Ccvw0B2itg0C7x3w0Ba31g0C8zzw0B9d440C9cyk0B8n6s0Ca2vw0B8a840Cafuk0B7x9g0Cast80B7x9g0Cb5rw0B7kas0Cb5rw0B7kas0Cb5rw0B7kas0Cb5rw0B7x9g0Cast80B7x9g0Cast80B7x9g0Cb5rw0B7kas0Cb5rw0B7kas0Cast80B8a840Ca2vw0B8n6s0C9px80B905g0C8zzw0B9q2s0C8n180B25us0Ccvw0B7kas0C8a2k0B25us0Cpuk0B7kas0C7k580B2itg0C12t80B7x9g0C6u7w0B25us0C1sqk0B7x9g0C64ak0B2itg0C25p80B7x9g0C5rbw0B2itg0C2vmk0B7kas0C5ed80B25us0C3ljw0B7kas0C4ofw0B2itg0C3yik0B7x9g0C3yik0B25us0C4ofw0B7x9g0C3ljw0B25us0C51ek0B7x9g0C2vmk0B2itg0C5ed80B7x9g0C2inw0B25us0C6h980B7kas0C1sqk0B2itg0C6u7w0B7kas0C1frw0B2itg0C776k0B7x9g0Cpuk0B25us0C7x3w0B;2087,7200,10800,3,4,4,180000,10,4,4,180000
Asia/Ho_Chi_Minh Asia/Saigon;25590,25200,28800,32400;zj45caBgj25iuC15ct80D8so00Btmtk0C4azmo0B2cm7w0C8285c0B;
Asia/Hong_Kong Hongkong;27402,28800,32400,30600;w4zuz4Bj44dk0C5k000D4d4y0C2195i0B7x3w0Cbj320B6uao0Cbvs00B7x6o0C9d1c0B7x6o0Casw00B7x6o0Casw00B7x6o0Casw00B8a5c0Casw00B7x6o0Cast80B77c40Cbiqk0B77c40Cbvp80B6udg0Cbvp80B77c40Cbiqk0B77c40Cbiqk0B77c40Cbiqk0B77c40Cbvp80B6udg0Cbvp80B6udg0Cbvp80B77c40Cbiqk0B77c40Cbiqk0B8n6s0C9cyk0B9d440C9cyk0B9d440C9px80B9d440C9cyk0B9d440C9cyk0B9d440C9cyk0B9d440C9cyk0B9d440C9px80B9d440C9cyk0B3lpg0Cf4d80B9d440C9cyk0B9d440C9cyk0B1c9440C8a2k0B;
Asia/Hovd;21996,21600,25200,28800;wj56s4B11sncb0C2qk2k0D9et80C9eys0D9cyk0C9d440D9cyk0C9d440D9cyk0C9d440D9cyk0C9d440D9cyk0C9d440D9cyk0C9d440D9px80C9d440D9cyk0C9d440D9cyk0C9d440D9cyk0C9d440D9cyk0C9d440D9cyk0C9q2s0D9cyk0C9d440D9cyk0C9d440D9cyk0C1ckdo0D7x3w0C9d440D9cyk0C9d440D9cyk0C9d440D9cyk0C9d440D9cyk0C9d440D9px80C4fio40D9ct00C9d9o0D9ct00C;
Asia/Irkutsk;25025,25200,28800,32400;1439f3zB5fh175Cqi27w0D9et80C9d440D9et80C9d440D9et80C9eys0D9d6w0C9d1c0D9d1c0C9d1c0D9d1c0C9d1c0D9d1c0C9d1c0D9d1c0C9d1c0D9d1c0C9d1c0D9q000Ciq5g0B5reo0C3ljw0D9d1c0C9d1c0D9d1c0C9d1c0D9d1c0C9d1c0D9d1c0C9q000Dasw00C7x6o0Dasw00C7x6o0Dasw00C7x6o0Db5uo0C7k800Db5uo0C7k800Db5uo0C7x6o0Dasw00C7x6o0Dasw00C7x6o0Db5uo0C7k800Db5uo0C7k800Db5uo0C7k800Db5uo0C7x6o0Dasw00C7x6o0Dasw00C7x6o0Db5uo0C7k800D1vbzw0C;
Asia/Jakarta;25632,26400,27000,32400,28800,25200;1656i1sB4lzxc0C4wdzjcD1tu960C1cx860E11jta0C74uc20F;
Asia/Jayapura;33768,32400,34200;1ar69p4B66bqe0Ca37vy0B;
Asia/Jerusalem Asia/Tel_Aviv Israel;8454,8440,7200,10800,14400;j6jmkaBjtxuoeCbp5aigD69xc0C2f1c0D10q800C7rmo0Db0ao0C7thc0Db0ao0C8jeo0Da8io0C8jeo0Da8io0Ct9pc0E571c0D34yo0C9b6o0D9gqo0C8jeo0D7thc0Ca6o00Dbitc0C8a5c0D9d1c0C902o0D7x6o0Ce1k00D4oio0Ce1k00D4oio0Cdolc0D64dc0Casw00D7k800C8rfeg0D51ek0C9q2s0D6u7w0C2kjk40D25s00C1weyo0D5reo0Cbvs00D776k0Cdbpg0D5rbw0Cbbhg0D7rjw0Casys0D7k580Cc8tg0D6h980Cag040D7x3w0Casys0D8a2k0Casys0D8a2k0Cap9g0D80t80Cap9g0D7nuk0Cb2840D80t80C9zc40D9iik0C9kis0D93p80C9mdg0D8qqk0Capf00D7x3w0Cbiw40D8zx40C9io40D8n180C9kis0D9vh80C8ulg0D9px80C9mdg0D8n180C9tuw0D9tmk0C8wg40D9gnw0C99es0D8qqk0C9zc40D9tmk0C8wg40D9gnw0C99es0D8qqk0Cacas0D9gnw0C99es0D93p80C;2013,7200,10800,3,4,4,93600,10,5,0,7200
Asia/Kabul;16608,14400,16200;oeg9lsBspc1pcC;
Asia/Kamchatka;38076,39600,43200,46800;15jq11gB3z045oCqi27w0D9et80C9d440D9et80C9d440D9et80C9eys0D9d6w0C9d1c0D9d1c0C9d1c0D9d1c0C9d1c0D9d1c0C9d1c0D9d1c0C9d1c0D9d1c0C9d1c0D9q000Ciq5g0B5reo0C3ljw0D9d1c0C9d1c0D9d1c0C9d1c0D9d1c0C9d1c0D9d1c0C9q000Dasw00C7x6o0Dasw00C7x6o0Dasw00C7x6o0Db5uo0C7k800Db5uo0C7k800Db5uo0C7x6o0Dasw00C7x6o0Dasw00C7x6o0Db5uo0C7k800Db5uo0C7k800Db5uo0C7k800Db5uo0C7x6o0Dasw00C7x6o0Dasw00Cj3440B7k800C;
Asia/Karachi;16092,19800,23400,18000,21600;x9sko4Bim3zt0C1mn180B33xpg0Dqd6eq0E9cyk0D2y85g0E7v980D8hms0Eaaak0D;
Asia/Kathmandu Asia/Katmandu;20476,19800,20700;14212mcByg2lusC;
Asia/Khandyga;32533,28800,32400,36000,39600;1415bzfB5hl1jpCqi27w0D9et80C9d440D9et80C9d440D9et80C9eys0D9d6w0C9d1c0D9d1c0C9d1c0D9d1c0C9d1c0D9d1c0C9d1c0D9d1c0C9d1c0D9d1c0C9d1c0D9q000Ciq5g0B5reo0C3ljw0D9d1c0C9d1c0D9d1c0C9d1c0D9d1c0C9d1c0D9d1c0C9q000Dasw00C7x6o0Dasw00C7x6o0Dasw00C7x6o0Db5uo0C7k800Db5uo0C7k800Db5uo0C7x6o0Dasw00C7x6o0Dasw00C3fx40D4h6s0Eb5uo0D7k800Eb5uo0D7k800Eb5uo0D7k800Eb5uo0D7x6o0Easw00D7x6o0Easw00D7x6o0Eb5uo0D7k800E8ql00D1mlho0C;
Asia/Kolkata Asia/Calcutta;21208,21200,19270,19800,23400;5v7sq0B83glc8Cisc6tmDinnm9aEbmfw0D5lxg0E1mn180D;
Asia/Krasnoyarsk;22286,21600,25200,28800;142aak2B5gg8j2Cqi27w0D9et80C9d440D9et80C9d440D9et80C9eys0D9d6w0C9d1c0D9d1c0C9d1c0D9d1c0C9d1c0D9d1c0C9d1c0D9d1c0C9d1c0D9d1c0C9d1c0D9q000Ciq5g0B5reo0C3ljw0D9d1c0C9d1c0D9d1c0C9d1c0D9d1c0C9d1c0D9d1c0C9q000Dasw00C7x6o0Dasw00C7x6o0Dasw00C7x6o0Db5uo0C7k800Db5uo0C7k800Db5uo0C7x6o0Dasw00C7x6o0Dasw00C7x6o0Db5uo0C7k800Db5uo0C7k800Db5uo0C7k800Db5uo0C7x6o0Dasw00C7x6o0Dasw00C7x6o0Db5uo0C7k800D1vbzw0C;
Asia/Kuching Asia/Brunei;26480,27000,28800,30000,32400;179tgnkB3khwxkC1epvy0D4ohqoCe5a9cD4ohqoCe3flcD4ohqoCe3flcD4ohqoCe3flcD4ohqoCe5a9cD4ohqoCe3flcD4ohqoC3ajlcE1v2qk0C;
Asia/Macau Asia/Macao;27250,28800,32400,36000;w4zte6BjdvyoyC6onw0Dac580C8fs40D7v980C11luw0Bawlc0C7vc00Bac800Cbko00B7x6o0C9d1c0B7vc00Casw00B7x6o0Casw00B7x6o0Cauqo0B88ao0Casw00B7x6o0Casw00B779c0Cbitc0B779c0Cbvs00B6uao0Cbw1q0B77c40Cbiqk0B77c40Cbiqk0B77c40Cbiqk0B77c40Cbvp80B6udg0Cbvp80B6udg0Cbvp80B77c40Cbiqk0B77c40Cbiqk0B8n6s0C9cvs0B9d6w0C9cvs0B9d6w0C9px80B9d440C9cyk0B9d440C9cyk0B9d440C9cyk0B9d440C9cyk0B9d440C9px80B9d440C9cyk0B3lpg0Cf4d80B9d440C9cyk0B9d440C9cyk0B1c9440C8a2k0B;
Asia/Magadan;36192,36000,39600,43200;16bg7tsB37a05cCqi27w0D9et80C9d440D9et80C9d440D9et80C9eys0D9d6w0C9d1c0D9d1c0C9d1c0D9d1c0C9d1c0D9d1c0C9d1c0D9d1c0C9d1c0D9d1c0C9d1c0D9q000Ciq5g0B5reo0C3ljw0D9d1c0C9d1c0D9d1c0C9d1c0D9d1c0C9d1c0D9d1c0C9q000Dasw00C7x6o0Dasw00C7x6o0Dasw00C7x6o0Db5uo0C7k800Db5uo0C7k800Db5uo0C7x6o0Dasw00C7x6o0Dasw00C7x6o0Db5uo0C7k800Db5uo0C7k800Db5uo0C7k800Db5uo0C7x6o0Dasw00C7x6o0Dasw00C7x6o0Db5uo0C7k800D1vbzw0Bs39k0C;
Asia/Makassar Asia/Ujung_Pandang;28656,28800,32400;1ar6dn4B4u87w0C1w02k0B;
Asia/Manila;-57368,29032,28800,32400;wyyooBsjc9igCje0pc0D3wnw0C2kc5g0D22dp80C4d3ms0D2rx80Cbwlpg0D95jw0C6lv1g0D3jp80C;
Asia/Nicosia Europe/Nicosia;8008,7200,10800;15165koBrvhxygC9cyk0Bb42s0C7nuk0B8yas0C8zzw0B9q2s0C9et80B9b9g0C9cyk0B9q2s0C8zzw0B9d440C9cyk0B9d440C9cyk0B9d440C9cyk0B9d440C9px80B9d440C9cyk0B9d440C9cyk0B9d440C9cyk0B9d440C9cyk0B9d440C9cyk0B9d440C9px80B9d440C9cyk0B9d440C9cyk0B9d440C9cyk0B9d440C9cyk0B9d440C9cyk0B9q2s0C9cyk0B9d440C9cyk0B9d440Cat4c0B;1999,7200,10800,3,5,0,10800,10,5,0,14400
Asia/Novokuznetsk;20928,21600,25200,28800;16beoxsB37bu5cCqi27w0D9et80C9d440D9et80C9d440D9et80C9eys0D9d6w0C9d1c0D9d1c0C9d1c0D9d1c0C9d1c0D9d1c0C9d1c0D9d1c0C9d1c0D9d1c0C9d1c0D9q000Ciq5g0B5reo0C3ljw0D9d1c0C9d1c0D9d1c0C9d1c0D9d1c0C9d1c0D9d1c0C9q000Dasw00C7x6o0Dasw00C7x6o0Dasw00C7x6o0Db5uo0C7k800Db5uo0C7k800Db5uo0C7x6o0Dasw00C7x6o0Dasw00C7x6o0Db5uo0C7k800Db5uo0C7k800Db5uo0C7k800Db5uo0C7x6o0Dasw00C7x6o0Dasw00Cj3440B7k800C;
Asia/Novosibirsk;19900,21600,25200,28800;14147qcB5hmbcsCqi27w0D9et80C9d440D9et80C9d440D9et80C9eys0D9d6w0C9d1c0D9d1c0C9d1c0D9d1c0C9d1c0D9d1c0C9d1c0D9d1c0C9d1c0D9d1c0C9d1c0D9q000Ciq5g0B5reo0C3ljw0D9d1c0C9d1c0D2vh00C6hn40B9d1c0C9d1c0B9d1c0C9d1c0B9q000Casw00B7x6o0Casw00B7x6o0Casw00B7x6o0Cb5uo0B7k800Cb5uo0B7k800Cb5uo0B7x6o0Casw00B7x6o0Casw00B7x6o0Cb5uo0B7k800Cb5uo0B7k800Cb5uo0B7k800Cb5uo0B7x6o0Casw00B7x6o0Casw00B7x6o0Cb5uo0B7k800C1vbzw0Bwrpg0C;
Asia/Omsk;17610,18000,21600,25200;13zk8tyB5j6d16Cqi27w0D9et80C9d440D9et80C9d440D9et80C9eys0D9d6w0C9d1c0D9d1c0C9d1c0D9d1c0C9d1c0D9d1c0C9d1c0D9d1c0C9d1c0D9d1c0C9d1c0D9q000Ciq5g0B5reo0C3ljw0D9d1c0C9d1c0D9d1c0C9d1c0D9d1c0C9d1c0D9d1c0C9q000Dasw00C7x6o0Dasw00C7x6o0Dasw00C7x6o0Db5uo0C7k800Db5uo0C7k800Db5uo0C7x6o0Dasw00C7x6o0Dasw00C7x6o0Db5uo0C7k800Db5uo0C7k800Db5uo0C7k800Db5uo0C7x6o0Dasw00C7x6o0Dasw00C7x6o0Db5uo0C7k800D1vbzw0C;
Asia/Oral;12324,10800,18000,21600,14400;16bgq8sB37a16cCqi2540Ds6qk0C9d440D9et80C9eys0D9d6w0C9d1c0D9d1c0C9d1c0D9d1c0C9d1c0D9d1c0C9d1c0D9d1c0Ciq5g0E9d1c0C9q000E9d1c0C9d1c0E5reo0Ccyo00E9d1c0C9d1c0E9d1c0C9d1c0E9d1c0C9d1c0E9q000Casw00E7x6o0Casw00E7x6o0Casw00E7x6o0Cb5uo0E7k800Cb5uo0E7k800Cb5uo0E7x6o0Casw00E7x6o0Casw00E7x6o0C;
Asia/Pontianak;26240,27000,32400,28800,25200;1ar6fi8B4tnu2wC1wkei0B1cx860D11jta0B74uc20Dcixam0E;
Asia/Pyongyang;30180,30600,32400;xx8pssB1yh10cC1i2uzy0B1f4qo0C;
Asia/Qatar Asia/Bahrain;12368,14400,10800;14218vkBrctnrkC;
Asia/Qostanay;15268,14400,18000,21600;16bgnz0B37a0o4Cqi27w0Ds6qk0C9d440D9et80C9eys0D9d6w0C9d1c0D9d1c0C9d1c0D9d1c0C9d1c0D9d1c0C9d1c0D9d1c0C9d1c0D9d1c0C9d1c0D9q000Ciq5g0B5reo0C3ljw0D9d1c0C9d1c0D9d1c0C9d1c0D9d1c0C9d1c0D9d1c0C9q000Dasw00C7x6o0Dasw00C7x6o0Dasw00C7x6o0Db5uo0C7k800Db5uo0C7k800Db5uo0C7x6o0Dasw00C7x6o0Dasw00C7x6o0Daedjo0C;
Asia/Qyzylorda;15712,14400,18000,21600;16bgnmoB37a10gCqi27w0Ds6qk0C9d440D9et80C9eys0D9d6w0C9d1c0D9d1c0C9d1c0D9d1c0C9d1c0D9d1c0C9d1c0D9d1c0C9d1c0D9d1c0C9d1c0D9q000Cohhc0Dcyo00C9d1c0D9d1c0C9d1c0D9d1c0C9d1c0D9d1c0C9q000Dasw00C7x6o0Dasw00C7x6o0Dasw00C7x6o0Db5uo0C7k800Db5uo0C7k800Db5uo0C7x6o0Dasw00C7x6o0Dasw00C7x6o0D7osl00C;
Asia/Riyadh Antarctica/Syowa Asia/Aden Asia/Kuwait;11212,10800;1i91kfoB;
Asia/Sakhalin;34248,32400,39600,43200,36000;wk9nzsBkvnarcCikvh40D9et80C9d440D9et80C9d440D9et80C9eys0D9d6w0C9d1c0D9d1c0C9d1c0D9d1c0C9d1c0D9d1c0C9d1c0D9d1c0C9d1c0D9d1c0C9d1c0D9q000Ciq5g0E5reo0C3ljw0D9d1c0C9d1c0D9d1c0C9d1c0D9d1c0C9d1c0D9d1c0C9q000Dasw00Ciq5g0E7x6o0Casw00E7x6o0Cb5uo0E7k800Cb5uo0E7k800Cb5uo0E7x6o0Casw00E7x6o0Casw00E7x6o0Cb5uo0E7k800Cb5uo0E7k800Cb5uo0E7k800Cb5uo0E7x6o0Casw00E7x6o0Casw00E7x6o0Cb5uo0E7k800C1vbzw0Eqnc40C;
Asia/Samarkand;16073,14400,18000,21600;16bgncnB37a1ahCqi27w0Ds6qk0C9d440D9et80C9eys0D9d6w0C9d1c0D9d1c0C9d1c0D9d1c0C9d1c0D9d1c0C9d1c0D9d1c0C9d1c0D9d1c0C9d1c0D9q000C9d1c0D9d1c0C;
Asia/Seoul ROK;30472,30600,32400,36000,34200;xx8pkoB1yh18gCj07fy0D5cik0Cae5g0D8a2k0Cae5g0D8bx80Cc8tg0D6h980C1bj6s0Bl3aq0E6j3w0Bd2g40E6u7w0Bb5xg0E776k0Bbiw40E776k0Bbiw40E776k0Bbiw40E776k0Bgrs40Cdfqxi0D7x6o0Casw00D7x6o0C;
Asia/Shanghai Asia/Chongqing Asia/Chungking Asia/Harbin PRC;29143,28800,32400;u52vxlB9jeyxjC8sl80Basbpg0C6w2k0B7ves0Cbxjw0B4mqs0C1vduk0Bd4as0C75bw0Ba31g0Caaak0B9d440C7v980Bawo40C1dx80Bj9xpo0C6u7w0Basys0C7x3w0Bb5xg0C7k580Bb5xg0C7x3w0Basys0C7x3w0Basys0C7x3w0B;
Asia/Singapore Asia/Kuala_Lumpur Singapore;24925,25200,26400,27000,32400,28800;wg05urBeeb94dC4it32oD8n3jcE1v2p60Diy3ms0F;
Asia/Srednekolymsk;36892,36000,39600,43200;16bg7acB37a0osCqi27w0D9et80C9d440D9et80C9d440D9et80C9eys0D9d6w0C9d1c0D9d1c0C9d1c0D9d1c0C9d1c0D9d1c0C9d1c0D9d1c0C9d1c0D9d1c0C9d1c0D9q000Ciq5g0B5reo0C3ljw0D9d1c0C9d1c0D9d1c0C9d1c0D9d1c0C9d1c0D9d1c0C9q000Dasw00C7x6o0Dasw00C7x6o0Dasw00C7x6o0Db5uo0C7k800Db5uo0C7k800Db5uo0C7x6o0Dasw00C7x6o0Dasw00C7x6o0Db5uo0C7k800Db5uo0C7k800Db5uo0C7k800Db5uo0C7x6o0Dasw00C7x6o0Dasw00C7x6o0Db5uo0C7k800D1vbzw0C;
Asia/Taipei ROC;29160,28800,32400;rj5el4Blsd1m0C45slc0Bc51c0C75bw0Ba31g0Caaak0B9d440C7v980Bawo40C7v980Bawo40C7v980Bawo40C7v980B7tk40Cclmk0B7rpg0Cb07w0B7rpg0Cb07w0B7rpg0C9et80B9eys0C9et80B9d440C9et80B9d440C9et80B9d440C9et80Bcjxg0C69uk0Bci2s0C69uk0B6its40C9et80B9d440C9et80B1yf9g0C4qak0B;
Asia/Tashkent;16631,18000,21600,25200;16bgmx5B379yxzCqi27w0D9et80C9d440D9et80C9d440D9et80C9eys0D9d6w0C9d1c0D9d1c0C9d1c0D9d1c0C9d1c0D9d1c0C9d1c0D9d1c0C9d1c0D9d1c0C9d1c0D9q000Ciq5g0B;
Asia/Tbilisi;10751,10800,14400,18000;16bgrghBh4tjynCckinw0D9et80C9d440D9et80C9d440D9et80C9eys0D9d6w0C9d1c0D9d1c0C9d1c0D9d1c0C9d1c0D9d1c0C9d1c0D9d1c0C9d1c0D9d1c0C9d1c0D9q000Ciq5g0B9cvs0C9cyk0B9d440C9cyk0B9d440Cipzw0D9cyk0C9q2s0Dtivw0C7x9g0Dast80C7x9g0Db5rw0C7kas0Db5rw0C7kas0Db5rw0C7x9g0Dast80C7x9g0Dast80C7x9g0D4ofw0C6hn40B7k800C;
Asia/Tehran Iran;12344,12600,16200,14400,18000;1c49e88Blsvh0wCayg00D7z2q0E6uao0D51hc0Ba4uq0C5wvw0B9gtg0C9kd80B5ja5g0C7avw0B9d440C9gnw0B9b9g0C9gnw0B9b9g0C9gnw0B9b9g0C9gnw0B9b9g0C9gnw0B9d440C9gnw0B9b9g0C9gnw0B9b9g0C9gnw0B9b9g0C9gnw0B9d440C9gnw0B9b9g0C9gnw0B9b9g0C9gnw0B9b9g0C9gnw0B9d440C9gnw0B1av440C9gnw0B9d440C9gnw0B9b9g0C9gnw0B9b9g0C9gnw0B9b9g0C9gnw0B9d440C9gnw0B9b9g0C9gnw0B9b9g0C9gnw0B9b9g0C9gnw0B9d440C9gnw0B9b9g0C9gnw0B9b9g0C9gnw0B9b9g0C9gnw0B9d440C9gnw0B9b9g0C9gnw0B;
Asia/Thimphu Asia/Thimbu;21516,19800,21600;1igyj5gBkxymnoC;
Asia/Tokyo Japan;33539,32400,36000;ncu834Bvhjeo0C6uao0Bafxc0C8a5c0Bc8qo0C6hc00Bc8qo0C6hc00B;
Asia/Tomsk;20391,21600,25200,28800;141ik0pB5h7z2fCqi27w0D9et80C9d440D9et80C9d440D9et80C9eys0D9d6w0C9d1c0D9d1c0C9d1c0D9d1c0C9d1c0D9d1c0C9d1c0D9d1c0C9d1c0D9d1c0C9d1c0D9q000Ciq5g0B5reo0C3ljw0D9d1c0C9d1c0D9d1c0C9d1c0D9d1c0C9d1c0D9d1c0C9q000Dasw00C7x6o0Dasw00C7x6o0Dasw00C7x6o0Db5uo0C7k800Db5uo0C7k800Db5uo0C7x6o0D1leo0C97k40B7x6o0Casw00B7x6o0Cb5uo0B7k800Cb5uo0B7k800Cb5uo0B7k800Cb5uo0B7x6o0Casw00B7x6o0Casw00B7x6o0Cb5uo0B7k800C1vbzw0Btw040C;
Asia/Ulaanbaatar Asia/Choibalsan Asia/Ulan_Bator;25652,25200,28800,32400;wj53ykB11sncckC2qk2k0D9et80C9eys0D9cyk0C9d440D9cyk0C9d440D9cyk0C9d440D9cyk0C9d440D9cyk0C9d440D9cyk0C9d440D9px80C9d440D9cyk0C9d440D9cyk0C9d440D9cyk0C9d440D9cyk0C9d440D9cyk0C9q2s0D9cyk0C9d440D9cyk0C9d440D9cyk0C1ckdo0D7x3w0C9d440D9cyk0C9d440D9cyk0C9d440D9cyk0C9d440D9cyk0C9d440D9px80C4fio40D9ct00C9d9o0D9ct00C;
Asia/Urumqi Asia/Kashgar;21020,21600;188c678B;
Asia/Ust-Nera;34374,28800,32400,43200,39600,36000;1415akaB5hl2yuCqi27w0D9eno0E9d440D9et80E9d440D9et80E9eys0D9d6w0E9d1c0D9d1c0E9d1c0D9d1c0E9d1c0D9d1c0E9d1c0D9d1c0E9d1c0D9d1c0E9d1c0D9q000Eiq5g0F5reo0E3ljw0D9d1c0E9d1c0D9d1c0E9d1c0D9d1c0E9d1c0D9d1c0E9q000Dasw00E7x6o0Dasw00E7x6o0Dasw00E7x6o0Db5uo0E7k800Db5uo0E7k800Db5uo0E7x6o0Dasw00E7x6o0Dasw00E7x6o0Db5uo0E7k800Db5uo0E7k800Db5uo0E7k800Db5uo0E7x6o0Dasw00E7x6o0Dasw00E7x6o0Db5uo0E7k800D8ql00E1mlho0F;
Asia/Vladivostok;31651,32400,36000,39600;15jzfbxB3yqvf7Cqi27w0D9et80C9d440D9et80C9d440D9et80C9eys0D9d6w0C9d1c0D9d1c0C9d1c0D9d1c0C9d1c0D9d1c0C9d1c0D9d1c0C9d1c0D9d1c0C9d1c0D9q000Ciq5g0B5reo0C3ljw0D9d1c0C9d1c0D9d1c0C9d1c0D9d1c0C9d1c0D9d1c0C9q000Dasw00C7x6o0Dasw00C7x6o0Dasw00C7x6o0Db5uo0C7k800Db5uo0C7k800Db5uo0C7x6o0Dasw00C7x6o0Dasw00C7x6o0Db5uo0C7k800Db5uo0C7k800Db5uo0C7k800Db5uo0C7x6o0Dasw00C7x6o0Dasw00C7x6o0Db5uo0C7k800D1vbzw0C;
Asia/Yakutsk;31138,28800,32400,36000;1415d26B5hl0gyCqi27w0D9et80C9d440D9et80C9d440D9et80C9eys0D9d6w0C9d1c0D9d1c0C9d1c0D9d1c0C9d1c0D9d1c0C9d1c0D9d1c0C9d1c0D9d1c0C9d1c0D9q000Ciq5g0B5reo0C3ljw0D9d1c0C9d1c0D9d1c0C9d1c0D9d1c0C9d1c0D9d1c0C9q000Dasw00C7x6o0Dasw00C7x6o0Dasw00C7x6o0Db5uo0C7k800Db5uo0C7k800Db5uo0C7x6o0Dasw00C7x6o0Dasw00C7x6o0Db5uo0C7k800Db5uo0C7k800Db5uo0C7k800Db5uo0C7x6o0Dasw00C7x6o0Dasw00C7x6o0Db5uo0C7k800D1vbzw0C;
Asia/Yangon Asia/Rangoon Indian/Cocos;23087,23400,32400;14210ltBbnjp3bC1kh520B;
Asia/Yekaterinburg;14553,13505,14400,18000,21600;128cduvB1kybx4C5pfyv5Dqi27w0E9et80D9d440E9et80D9d440E9et80D9eys0E9d6w0D9d1c0E9d1c0D9d1c0E9d1c0D9d1c0E9d1c0D9d1c0E9d1c0D9d1c0E9d1c0D9d1c0E9q000Diq5g0C5reo0D3ljw0E9d1c0D9d1c0E9d1c0D9d1c0E9d1c0D9d1c0E9d1c0D9q000Easw00D7x6o0Easw00D7x6o0Easw00D7x6o0Eb5uo0D7k800Eb5uo0D7k800Eb5uo0D7x6o0Easw00D7x6o0Easw00D7x6o0Eb5uo0D7k800Eb5uo0D7k800Eb5uo0D7k800Eb5uo0D7x6o0Easw00D7x6o0Easw00D7x6o0Eb5uo0D7k800E1vbzw0D;
Asia/Yerevan;10680,10800,14400,18000;16bgrigBh4tjwoCckinw0D9et80C9d440D9et80C9d440D9et80C9eys0D9d6w0C9d1c0D9d1c0C9d1c0D9d1c0C9d1c0D9d1c0C9d1c0D9d1c0C9d1c0D9d1c0C9d1c0D9q000Ciq5g0B9d1c0C9d1c0B9d1c0C9d1c0B9d1c0C9d1c0B9d1c0C11t180Dasw00C7x6o0Dasw00C7x6o0Db5uo0C7k800Db5uo0C7k800Db5uo0C7x6o0Dasw00C7x6o0Dasw00C7x6o0Db5uo0C7k800Db5uo0C7k800Db5uo0C7k800Db5uo0C7x6o0Dasw00C7x6o0Dasw00C7x6o0Db5uo0C7k800Db5uo0C;
Atlantic/Azores;-6160,-6872,-7200,-3600,0,3600;l9phu8Bem124wC2bufw0D6zxg0C66800Dbq580C71s40Dbq580C71s40Dbq580C73ms0Dbq580C71s40Dbq580C1b2g00D8so00Cst1c0D8n400C9q000D902o0Ca2yo0D902o0Ca2yo0D8n400Cst1c0D8n400C9d1c0D9d1c0Csg2o0D9d1c0C902o0D9q000Ca2yo0D8n400C9d1c0D9d1c0C902o0D9q000Ca2yo0Db5uo0C51hc0Dbmio0C99c00D9ew00C88ao0D25p80E5reo0D3lpg0C779c0D1sqk0E6uao0D38qs0C6uao0D25p80E6hc00D38qs0C6uao0D25p80E6hc00D38qs0C8a5c0D9d1c0C9d9o0D9d1c0C9d1c0D9d1c0C9d1c0D9d1c0C9d1c0D9d1c0C9d1c0D9q000C9d1c0D9d1c0C9d1c0D9d1c0C9d1c0D9d1c0C9d1c0D9d1c0C9d1c0D9q000C9d1c0D9d1c0C9d1c0D9d1c0C9d1c0D9d1c0C9d1c0D9d1c0C9d1c0D9d1c0C9d1c0D9q000C9d1c0D9d1c0C9d1c0D9d1c0C9d1c0D9d1c0C9d1c0D8cavo0E9d1c0D9d1c0E9d1c0D9d1c0E9q000D9d1c0E9d1c0D9d1c0E9d1c0D9d1c0E9d1c0D9d1c0E9d1c0D9d1c0E9d1c0D9d1c0E9q000D9d1c0E9d1c0D9d1c0E9d1c0D4olg0E4ofw0F46000E571c0D9d1c0E9d1c0D9d1c0E9d1c0D;1996,-3600,0,3,5,0,0,10,5,0,3600
Atlantic/Bermuda;-15558,-11958,-14400,-10800;12mlzraB95jw0Aa16s0B7yyk0A5w74c0C69z5ruDeefw0C7x9g0Dbiqk0C6udg0Dc8nw0C6hes0Dc8nw0Cst440D64ak0Ccyqs0D5ed80Cdbpg0D5ed80Cdoo40D51ek0Cdoo40D51ek0Cdoo40D5ed80C1xuw40D7x3w0C94r9g0D9cyk0C9d440D9cyk0C9d440D9px80C905g0D9px80C9d440D9cyk0C9d440D9cyk0C9d440D9cyk0C9d440D9cyk0C9d440D9px80C905g0D9px80C9d440D9cyk0C9d440D9cyk0C9d440D9cyk0C8a840Dafuk0C8a840Dast80C7x9g0Dast80C7x9g0Dast80C8a840Dafuk0C8a840Dafuk0C8a840Dast80C7x9g0Dast80C7x9g0Dast80C8a840Dafuk0C8a840Dafuk0C8a840Dafuk0C8a840Dast80C7x9g0Dast80C7x9g0Dast80C8a840Dafuk0C8a840Dafuk0C8a840Dast80C7x9g0Dast80C7x9g0Dast80C;2007,-14400,-10800,3,2,0,7200,11,1,0,7200
Atlantic/Canary;-3696,-3600,0,3600;156ojxsBctvupcChhq7s0D905g0C9d1c0D9d1c0C9d1c0D9d1c0C9d1c0D9d1c0C9d1c0D9q000C9d1c0D9d1c0C9d1c0D9d1c0C9d1c0D9d1c0C9d1c0D9d1c0C9d1c0D9d1c0C9d1c0D9q000C9d1c0D9d1c0C9d1c0D9d1c0C9d1c0D9d1c0C9d1c0D9d1c0C9d1c0D9d1c0C;1996,0,3600,3,5,0,3600,10,5,0,7200
Atlantic/Cape_Verde;-5644,-7200,-3600;zvqjz4Bg06lc0C1mn180Bfpqwc0C;
Atlantic/Faroe Atlantic/Faeroe;-1624,0,3600;xt3ec8B127keuwC9d1c0B9d1c0C9d1c0B9d1c0C9d1c0B9d1c0C9q000B9d1c0C9d1c0B9d1c0C9d1c0B9d1c0C9d1c0B9d1c0C9d1c0B9d1c0C9d1c0B9d1c0C9q000B9d1c0C9d1c0B9d1c0C9d1c0B9d1c0C9d1c0B9d1c0C9d1c0B9d1c0C9d1c0B;1996,0,3600,3,5,0,3600,10,5,0,7200
Atlantic/Madeira;-4056,-3600,0,3600;zvqh74B2bufw0C6zxg0B66800Cbq580B71s40Cbq580B71s40Cbq580B73ms0Cbq580B71s40Cbq580B1b2g00C8so00Bst1c0C8n400B9q000C902o0Ba2yo0C902o0Ba2yo0C8n400Bst1c0C8n400B9d1c0C9d1c0Bsg2o0C9d1c0B902o0C9q000Ba2yo0C8n400B9d1c0C9d1c0B902o0C9q000Ba2yo0Cb5uo0B51hc0Cbmio0B99c00C9ew00B88ao0C25p80D5reo0C3lpg0B779c0C1sqk0D6uao0C38qs0B6uao0C25p80D6hc00C38qs0B6uao0C25p80D6hc00C38qs0B8a5c0C9d1c0B9d9o0C9d1c0B9d1c0C9d1c0B9d1c0C9d1c0B9d1c0C9d1c0B9d1c0C9q000B9d1c0C9d1c0B9d1c0C9d1c0B9d1c0C9d1c0B9d1c0C9d1c0B9d1c0C9q000B9d1c0C9d1c0B9d1c0C9d1c0B9d1c0C9d1c0B9d1c0C9d1c0B9d1c0C9d1c0B9d1c0C9q000B9d1c0C9d1c0B9d1c0C9d1c0B9d1c0C9d1c0B9d1c0C8cnuc0D902o0C9d1c0D9d1c0C9d1c0D9q000C9d1c0D9d1c0C9d1c0D9d440C9d1c0D9d1c0C9d1c0D9d1c0C9d1c0D9d1c0C9d1c0D9q000C9d1c0D9d1c0C9d1c0D9d1c0C9d1c0D9d1c0C9d1c0D9d1c0C9d1c0D9d1c0C;1996,0,3600,3,5,0,3600,10,5,0,7200
Atlantic/South_Georgia;-8768,-7200;oegt6oB;
Atlantic/Stanley;-13884,-14400,-10800,-7200;zze6gsBdbvxqcC8zzw0B9q2s0C8zzw0Ba31g0C8zzw0B9q2s0C8zzw0B9q2s0C8zzw0B9q2s0C4xp80Bl1pus0C7k580Db5rw0C77c40Dbiqk0Cid6s0B7kas0Cb5rw0B7kas0Cb5rw0B7kas0Cb5rw0B7kas0Cbiqk0B77c40Cbiqk0B7kas0Cb5rw0B7kas0Cb5rw0B7kas0Cb5rw0B7kas0Cb5rw0B7kas0Cbiqk0B7kas0Cb5rw0B7kas0Cb5rw0B7kas0Cb5rw0B7kas0Cb5rw0B7kas0Cb5xg0B77c40Cbvp80B6udg0Cbvp80B77c40Cbiqk0B77c40Cbiqk0B77c40Cbiqk0B77c40Cbiqk0B77c40Cbvp80B77c40Cbiqk0B77c40Cbiqk0B77c40C;
Australia/Adelaide Australia/South;33260,32400,34200,37800;r1ysr8B27qdzwC97zyu0D49pc0Ccxfk00D4h400C9d1c0D9d1c0C9q000D902o0Ceeio00D64dc0Cclpc0D6hc00Cc8qo0D6hc00Cc8qo0D6hc00Cc8qo0D6uao0Cc8qo0D6hc00Cc8qo0D6hc00Cc8qo0D6hc00Cc8qo0D6hc00Cc8qo0D6hc00Cc8qo0D6uao0Cc8qo0D6hc00Cc8qo0D6hc00Cc8qo0D6hc00Cc8qo0D779c0Cb5uo0D7k800Cbitc0D7k800Cbitc0D779c0Cbitc0D779c0Cbitc0D6hc00Cc8qo0D7k800Cb5uo0D6uao0Cc8qo0D779c0Cbitc0D7k800Cb5uo0D7x6o0Casw00D7x6o0Casw00D7x6o0Casw00D7x6o0Cb5uo0D7k800Cb5uo0D7k800Cb5uo0D7x6o0Casw00D7x6o0Casw00D7x6o0Cb5uo0D7k800Cb5uo0D7x6o0Casw00D7k800Cb5uo0D;2008,34200,37800,10,1,0,7200,4,1,0,10800
Australia/Brisbane Australia/Queensland;36728,36000,39600;r0dbewBbhbss8C49pc0Bcxfk00C4h400B9d1c0C9d1c0B9q000C902o0Beeio00C64dc0B97zuo0C6hc00Bc8qo0C6hc00Bc8qo0C6hc00B;
Australia/Broken_Hill Australia/Yancowinna;33948,36000,32400,34200,37800;r1ys84Bt9nr0C1egqs0D97zyu0E49pc0Dcxfk00E4h400D9d1c0E9d1c0D9q000E902o0Deeio00E64dc0Dclpc0E6hc00Dc8qo0E6hc00Dc8qo0E6hc00Dc8qo0E6uao0Dc8qo0E6hc00Dc8qo0E6hc00Dc8qo0E6hc00Dc8qo0E6hc00Dc8qo0E6hc00Dc8qo0E8a5c0Dasw00E6hc00Dc8qo0E6hc00Dc8qo0E6hc00Dc8qo0E779c0Db5uo0E7k800Dbitc0E7k800Dbitc0E779c0Dbitc0E6hc00Dc8qo0E6hc00Dc8qo0E6hc00Dc8qo0E6uao0Dc8qo0E6hc00Dc8qo0E6hc00Dc8qo0E7x6o0Dasw00E7x6o0Dasw00E7x6o0Dasw00E7x6o0Db5uo0E7k800Db5uo0E7k800Db5uo0E7x6o0Dasw00E7x6o0Dasw00E7x6o0Db5uo0E7k800Db5uo0E7x6o0Dasw00E7k800Db5uo0E;2008,34200,37800,10,1,0,7200,4,1,0,10800
Australia/Darwin Australia/North;31400,32400,34200,37800;r1yu6wB27qck8C97zyu0D49pc0Ccxfk00D4h400C9d1c0D9d1c0C9q000D902o0C;
Australia/Eucla;30928,31500,35100;rhjyk0Bb05944C49pc0Bcxfk00C4h400B9d1c0C9d1c0Bgheyo0C6hc00B4ir9c0C6hc00B40r400C5eg00B7p9hc0C5reo0Bb5uo0C7x6o0Basw00C7x6o0B;
Australia/Hobart Australia/Currie Australia/Tasmania;35356,36000,39600;rcvch0Bb03ee4C902o0Bb5uo0C6hc00Bc8qo0C6hc00Bbx2ao0C4h400B9d1c0C9d1c0B9q000C902o0Bc9tk00C9d1c0Basw00C6uao0Bbvs00C6uao0Bbvs00C779c0Bbvs00C64dc0Bclpc0C6hc00Bc8qo0C6hc00Bc8qo0C6hc00Bc8qo0C6uao0Bc8qo0C6hc00Bc8qo0C6hc00Bc8qo0C6hc00Bc8qo0C6hc00Bc8qo0C6hc00Bc8qo0C7x6o0Bb5uo0C7k800Bb5uo0C6hc00Bc8qo0C6hc00Bc8qo0C6hc00Bbvs00C7k800Bbitc0C7k800Bbitc0C779c0Bbitc0C779c0Bbitc0C7x6o0B9q000C902o0B9q000C902o0B9q000C902o0B9q000C902o0B9q000C9d1c0B9q000C902o0B9q000C902o0B9q000C902o0B9q000C902o0B7x6o0Casw00Ba2yo0C902o0B9q000C902o0B9q000C902o0B9q000C902o0B9q000C9d1c0B9d1c0C902o0Ba2yo0C;2008,36000,39600,10,1,0,7200,4,1,0,10800
Australia/Lindeman;35756,36000,39600;r0dc5wBbhbs18C49pc0Bcxfk00C4h400B9d1c0C9d1c0B9q000C902o0Beeio00C64dc0B97zuo0C6hc00Bc8qo0C6hc00Bc8qo0C6hc00Bc8qo0C6uao0Bc8qo0C6hc00B;
Australia/Lord_Howe Australia/LHI;38180,36000,37800,41400,39600;r1yoykB18x8f0kCc8uu0D6u7w0Cc8tg0D6h980Cc8tg0D6h980Cc8tg0D6h980Cc8tg0E777y0Cb5w20E7k6m0Cbiuq0E7k6m0Cbiuq0E777y0Cbiuq0E6ham0Cc8s20E6ham0Cc8s20E6ham0Cc8s20E6u9a0Cc8s20E6ham0Cc8s20E6ham0Cc8s20E7x5a0Casxe0E7x5a0Casxe0E7x5a0Casxe0E7x5a0Cb5w20E7k6m0C7x820Easum0Cb5w20E7x5a0Casxe0E7x5a0Casxe0E7x5a0Cb5w20E7k6m0Cb5w20E7x5a0Casxe0E7k6m0Cb5w20E;2008,37800,39600,10,1,0,7200,4,1,0,7200
Australia/Melbourne Australia/Victoria;34792,36000,39600;r1yrkoBbfqcmgC49pc0Bcxfk00C4h400B9d1c0C9d1c0B9q000C902o0Beeio00C64dc0Bclpc0C6hc00Bc8qo0C6hc00Bc8qo0C6hc00Bc8qo0C6uao0Bc8qo0C6hc00Bc8qo0C6hc00Bc8qo0C6hc00Bc8qo0C6hc00Bc8qo0C6hc00Bc8qo0C6uao0Bc8qo0C6hc00Bc8qo0C6hc00Bc8qo0C6hc00Bc8qo0C779c0Bb5uo0C7k800Bb5uo0C7x6o0Bbitc0C779c0Bbitc0C779c0Bbitc0C6hc00Bc8qo0C6hc00Bc8qo0C6uao0Bc8qo0C6hc00Bc8qo0C7k800Bb5uo0C7x6o0Basw00C7x6o0Basw00C7x6o0Basw00C7x6o0Bb5uo0C7k800B7x6o0Casw00Bb5uo0C7x6o0Basw00C7x6o0Basw00C7x6o0Bb5uo0C7k800Bb5uo0C7x6o0Basw00C7k800Bb5uo0C;2008,36000,39600,10,1,0,7200,4,1,0,10800
Australia/Perth Australia/West;27804,28800,32400;rhk0ysBb058scC49pc0Bcxfk00C4h400B9d1c0C9d1c0Bgheyo0C6hc00B4ir9c0C6hc00B40r400C5eg00B7p9hc0C5reo0Bb5uo0C7x6o0Basw00C7x6o0B;
Australia/Sydney Australia/ACT Australia/Canberra Australia/NSW;36292,36000,39600;r1yqf0Bbfqds4C49pc0Bcxfk00C4h400B9d1c0C9d1c0B9q000C902o0Beeio00C64dc0Bclpc0C6hc00Bc8qo0C6hc00Bc8qo0C6hc00Bc8qo0C6uao0Bc8qo0C6hc00Bc8qo0C6hc00Bc8qo0C6hc00Bc8qo0C6hc00Bc8qo0C6hc00Bc8qo0C8a5c0Basw00C6hc00Bc8qo0C6hc00Bc8qo0C6hc00Bc8qo0C779c0Bb5uo0C7k800Bbitc0C7k800Bbitc0C779c0Bbitc0C6hc00Bc8qo0C6hc00Bc8qo0C6hc00Bc8qo0C6uao0Bc8qo0C6hc00Bc8qo0C6hc00Bc8qo0C7x6o0Basw00C7x6o0Basw00C7x6o0Basw00C7x6o0Bb5uo0C7k800B7x6o0Casw00Bb5uo0C7x6o0Basw00C7x6o0Basw00C7x6o0Bb5uo0C7k800Bb5uo0C7x6o0Basw00C7k800Bb5uo0C;2008,36000,39600,10,1,0,7200,4,1,0,10800
Etc/GMT Etc/GMT+0 Etc/GMT-0 Etc/GMT0 Etc/Greenwich GMT GMT+0 GMT-0 GMT0 Greenwich;0;;
Etc/GMT+1;-3600;;
Etc/GMT+10;-36000;;
Etc/GMT+11;-39600;;
Etc/GMT+12;-43200;;
Etc/GMT+2;-7200;;
Etc/GMT+3;-10800;;
Etc/GMT+4;-14400;;
Etc/GMT+5;-18000;;
Etc/GMT+6;-21600;;
Etc/GMT+7;-25200;;
Etc/GMT+8;-28800;;
Etc/GMT+9;-32400;;
Etc/GMT-1;3600;;
Etc/GMT-10;36000;;
Etc/GMT-11;39600;;
Etc/GMT-12;43200;;
Etc/GMT-13;46800;;
Etc/GMT-14;50400;;
Etc/GMT-2;7200;;
Etc/GMT-3;10800;;
Etc/GMT-4;14400;;
Etc/GMT-5;18000;;
Etc/GMT-6;21600;;
Etc/GMT-7;25200;;
Etc/GMT-8;28800;;
Etc/GMT-9;32400;;
Etc/UTC Etc/UCT Etc/Universal Etc/Zulu UCT UTC Universal Zulu;0;;
Europe/Andorra;364,0,3600,7200;u53i50Bnvgqy4Ck3ctg0D9d1c0C9d1c0D9d1c0C9d1c0D9d1c0C9d1c0D9d1c0C9d1c0D9d1c0C9d1c0D9q000C9d1c0D9d1c0C9d1c0D9d1c0C9d1c0D9d1c0C9d1c0D9d1c0C9d1c0D9d1c0C;1996,3600,7200,3,5,0,7200,10,5,0,10800
Europe/Astrakhan;11532,10800,14400,18000;16bew6sB37bv8cCqi27w0D9et80C9d440D9et80C9d440D9et80C9eys0D9d6w0C9d1c0D9d1c0C9d1c0D9d1c0C9d1c0D9d1c0C9d1c0D9d1c0Ciq5g0B9d1c0C9q000B9d1c0Cs3400B9d1c0C9d1c0B9d1c0C9d1c0B9d1c0C9d1c0B9q000Casw00B7x6o0Casw00B7x6o0Casw00B7x6o0Cb5uo0B7k800Cb5uo0B7k800Cb5uo0B7x6o0Casw00B7x6o0Casw00B7x6o0Cb5uo0B7k800Cb5uo0B7k800Cb5uo0B7k800Cb5uo0B7x6o0Casw00B7x6o0Casw00B7x6o0Cb5uo0B7k800C1vbzw0Bqnc40C;
Europe/Athens EET;5692,7200,10800,3600;129mveoB8bjasgC2vmk0B4hiw40C16ik0Bscog0D7lx40B9o2k0D9eys0B4atzw0C6djw0Bbplus0Cbq800B71uw0C9d1c0B902o0C91xc0B9o5c0C905g0B9qgo0C9akg0B9iik0C99980B9dcg0C9d1c0B9d1c0C9d1c0B9d1c0C9d1c0B9d1c0C9q000B9d1c0C9d1c0B9d1c0C9d1c0B9d1c0C9d1c0B9d1c0C9d1c0B9d1c0C9d1c0B9d1c0C9q000B9d1c0C9d1c0B9d1c0C9d1c0B9d1c0C9d1c0B9d1c0C9d1c0B9d1c0C9d1c0B;1996,7200,10800,3,5,0,10800,10,5,0,14400
Europe/Belgrade Europe/Ljubljana Europe/Podgorica Europe/Sarajevo Europe/Skopje Europe/Zagreb;4920,3600,7200;l9p9agBtwhnkoCswz00B7k800C9q000B9d1c0C9d1c0Bb7pc0C6qlc0Bjl1hc0C9d1c0B9d1c0C9q000B9d1c0C9d1c0B9d1c0C9d1c0B9d1c0C9d1c0B9d1c0C9d1c0B9d1c0C9d1c0B9d1c0C9q000B9d1c0C9d1c0B9d1c0C9d1c0B9d1c0C9d1c0B9d1c0C9d1c0B9d1c0C9d1c0B;1996,3600,7200,3,5,0,7200,10,5,0,10800
Europe/Berlin Arctic/Longyearbyen Atlantic/Jan_Mayen Europe/Copenhagen Europe/Oslo Europe/Stockholm;3208,3600,7200,10800;q3gum0Bc1n0x4C7ves0Ba4yw0C7x6o0Basw00C7x6o0Bb8qdc0C1cm000B7k800C9q000B9d1c0C9d1c0B9d1c0C2o7w0D6bs00C2txg0B7k800C91xc0B9b9g0C1sqk0D2inw0C51k40Ba2yo0C8n400B9q000C902o0Bfx91c0C902o0B9d1c0C9d1c0B9d1c0C9d1c0B9d1c0C9d1c0B9d1c0C9q000B9d1c0C9d1c0B9d1c0C9d1c0B9d1c0C9d1c0B9d1c0C9d1c0B9d1c0C9d1c0B9d1c0C9q000B9d1c0C9d1c0B9d1c0C9d1c0B9d1c0C9d1c0B9d1c0C9d1c0B9d1c0C9d1c0B;1996,3600,7200,3,5,0,7200,10,5,0,10800
Europe/Brussels CET Europe/Amsterdam Europe/Luxembourg MET;1050,0,3600,7200;pm8jr4Bbr3hc0Crrx80D7vc00Ca4yw0D7x6o0Casw00D7x6o0C2wh40B5omo0Cb5uo0B6uao0Ccyo00B7ayo0Cbko00B7rmo0Ca2yo0Ba2yo0C8n400B902o0C9q000B9d1c0C9d1c0Ba2yo0C8n400B9q000C902o0Ba2yo0C90b00Ba2yo0C8n400B9q000C902o0Ba2yo0C8n400B9d1c0C9d1c0B902o0Ca2yo0B9d1c0C9d1c0B902o0C9q000Ba2yo0C8n400B9d1c0C9d1c0B902o0C9q000Ba2yo0Cb5uo0B51hc0C4deo0D1a36k0C7k800D9q000C9d1c0D8l9c0Ca4tc0D8l9c0Cclpc0D79400Cfwu800D902o0C9q000D9d1c0C9d1c0D9d1c0C9q000D902o0C9d1c0D9d1c0C9d1c0D9d1c0C9d1c0D9d1c0C9d1c0D9q000C9d1c0D9d1c0C9d1c0D9d1c0C9d1c0D9d1c0C9d1c0D9d1c0C9d1c0D9d1c0C9d1c0D9q000C9d1c0D9d1c0C9d1c0D9d1c0C9d1c0D9d1c0C9d1c0D9d1c0C9d1c0D9d1c0C;1996,3600,7200,3,5,0,7200,10,5,0,10800
Europe/Bucharest;6264,7200,10800;1a37w94Bfj8m0C6w5c0B9d1c0C9d1c0B9q000C9d1c0B9d1c0C9d1c0B9d1c0C9d1c0B9d1c0C9d1c0B9d1c0C9d1c0B9d1c0C9d1c0Bkp0dc0C6h980B9q000C905g0B9d6w0C9d1c0B9d1c0C9d1c0B9d1c0C9d1c0B9d1c0C9q000B9d1c0C9d1c0B9d1c0C9d1c0B9d1c0C9d1c0B9d1c0C9d1c0B9d1c0C9d1c0B9d1c0C9q000B9cvs0C9d1c0B9d1c0C9d1c0B9d1c0C9d1c0B9d1c0C9cyk0B9d440C9cyk0B9q2s0Cast80B;1997,7200,10800,3,5,0,10800,10,5,0,14400
Europe/Budapest;4580,3600,7200;ou3hjwBdb0dz8C7ves0Ba4yw0C7x6o0Basw00C7x6o0Bauqo0C7vc00Bafxc0C8n400Baq1x00Cthcc0B7k800C9q000B9d1c0C9d1c0Bawd00C9eys0B7pxk0C9rrw0B9b9g0C9d1c0B9d1c0C9d1c0B9q000C902o0B2f4vs0C6u7w0Bbw0c0C6uao0Bclpc0C64dc0Bclpc0C64dc0Bbr3bs0C902o0B9d1c0C9d1c0B9d1c0C9d1c0B9d1c0C9d1c0B9d6w0C9q000B9d1c0C9d1c0B9d1c0C9d1c0B9d1c0C9d1c0B9d1c0C9d1c0B9d1c0C9d1c0B9d1c0C9q000B9d1c0C9d1c0B9d1c0C9d1c0B9d1c0C9d1c0B9d1c0C9d1c0B9d1c0C9d1c0B;1996,3600,7200,3,5,0,7200,10,5,0,10800
Europe/Chisinau Europe/Tiraspol;6920,6900,6264,7200,10800,3600,14400;j6jnqwBjw96okC70f1toDfj8m0E6w5c0D9d1c0E9d1c0D9q000E9d1c0D9d1c0E9d1c0D9d1c0E9d1c0D9d1c0E9d1c0D9d1c0E9d1c0D9d1c0E9d1c0Dgeqo0Eha580Doc8g0F7k800D9q000F9d1c0D7cl00Ej3pbw0G9et80E9d440G9et80E9d440G9et80E9eys0G9d6w0E9d1c0G9d1c0E9d1c0G9d1c0E9d1c0G9d1c0E9d1c0G9d1c0E9d1c0G9d1c0E9d1c0G25p80E7kdk0D9d1c0E9d1c0D9cvs0E9cyk0D9d440E9cyk0D9d440E9cyk0D9d440E9cyk0D9q2s0East80D;1997,7200,10800,3,5,0,7200,10,5,0,10800
Europe/Dublin Eire;-1521,2079,0,3600;126595dB6uao0C9pytrD8c000C9o5c0D9ruo0C9b6o0D9ew00C9b6o0Dauqo0C88ao0D9ew00C8y800Da2yo0Ca2yo0D7k800Casw00D8a5c0Casw00D8n400Ca2yo0D8n400C9q000D902o0Cafxc0D8n400Ca2yo0D8n400C9q000D902o0Ca2yo0D8n400Ca2yo0D8n400C9q000D9d1c0Ca2yo0D8n400C9q000D902o0Ca2yo0D8n400Ca2yo0D8n400C9q000D902o0Ca2yo0Db5uo0C51hc0D3g8800C8a5c0Dbvs00C8n400Da2yo0C7x6o0Dasw00C8n400D9q000C902o0D9q000C9d1c0D9q000C902o0D8n400C9q000D902o0Ca2yo0D8n400Cafxc0D8n400C9q000D902o0Ca2yo0D8n400Ca2yo0D8n400C9q000D902o0C902o0Db5uo0C7k800Db5uo0C7x6o0Dasw00C7k800Db5uo0C7k800Db5uo0C7k800Db5uo0C7k800Dbitc0C5reo0D1xhuo0C779c0Dbitc0C779c0Dbitc0C779c0Dbitc0C779c0Dbitc0C7k800Db5uo0C7k800Db5uo0C7k800Dbitc0C779c0Dbitc0C779c0Dbitc0C7x3w0Dasw00C7x6o0Dasw00C7x6o0Dasw00C7x6o0Db5uo0C7x6o0Dasw00C7x6o0Dasw00C7x6o0Dasw00C7x6o0Dasw00C7x6o0Db5uo0C7k800Db5uo0C7x6o0Dasw00C7x6o0Dasw00C7x6o0Dasw00C7x6o0Dasw00C7x6o0Dasw00C;1996,0,3600,3,5,0,3600,10,5,0,7200
Europe/Gibraltar;-1284,0,3600,7200;jhk4qsBiol38cC6uao0B9q000C8c000B9o5c0C9ruo0B9b6o0C9ew00B9b6o0Cauqo0B88ao0C9ew00B8y800Ca2yo0Ba2yo0C7k800Basw00C8a5c0Basw00C8n400Ba2yo0C8n400B9q000C902o0Bafxc0C8n400Ba2yo0C8n400B9q000C902o0Ba2yo0C8n400Ba2yo0C8n400B9q000C9d1c0Ba2yo0C8n400B9q000C902o0Ba2yo0C8n400Ba2yo0C8n400B9q000C902o0Ba2yo0Cb5uo0B51hc0Cmbmk0D51hc0Cc8qo0D6hc00Cc8qo0D6uao0Cbvs00D8n400Ca4tc0D5clc0C4bms0B9q000C902o0B8a5c0C1frw0D64dc0C4bms0B6uao0Cbvs00B7x6o0Casw00B8n400C9q000B902o0C9q000B9d1c0C9q000B902o0C8n400B9q000C902o0Ba2yo0C8n400Bafxc0C8n400B9q000Cd0tp80D9d1c0C9d1c0D9d1c0C9d1c0D9q000C9d1c0D9d1c0C9d1c0D9d1c0C9d1c0D9d1c0C9d1c0D9d1c0C9d1c0D9d1c0C9d1c0D9q000C9d1c0D9d1c0C9d1c0D9d1c0C9d1c0D9d1c0C9d1c0D9d1c0C9d1c0D9d1c0C;1996,3600,7200,3,5,0,7200,10,5,0,10800
Europe/Helsinki Europe/Mariehamn;5989,7200,10800;14r1dsrBax3tqdC9gqo0Bk31s80C9d1c0B9d1c0C9d1c0B9d440C9d1c0B9d1c0C9q000B9d1c0C9d1c0B9d1c0C9d1c0B9d1c0C9d1c0B9d1c0C9d1c0B9d1c0C9d1c0B9d1c0C9q000B9d1c0C9d1c0B9d1c0C9d1c0B9d1c0C9d1c0B9d1c0C9d1c0B9d1c0C9d1c0B;1996,7200,10800,3,5,0,10800,10,5,0,14400
Europe/Istanbul Asia/Istanbul Turkey;6952,7016,7200,10800,14400;j6jnq0Bg1oam8C2wvx6wD7v980C1tjc40Daunw0C88dg0D9et80C8yas0Da2vw0Ctzpg0D79180Cawo40D7v980C7p4040D4zjw0C2vs40Df4d80C9vms0D1u5ek0Cc5440D69uk0Cacas0D8n180Ca31g0D8n180C9q2s0D8zzw0Ca31g0D8zzw0Ca31g0D8n180C5md9g0Do9zw0Ca6qs0D75bw0C4iwyw0D7x6o0C7kas0Db5rw0C75hg0Dbkl80C77c40Dbiqk0C7x9g0Da2vw0C8n6s0D2s3mk0E38l80Dkdes0C8qtc0D8a5c0C9ew00D9d1c0C9d1c0D9d1c0C9d1c0D9d1c0C9d1c0D9d1c0C9d1c0D9q000C9d1c0D9d1c0C9d1c0D9d1c0C9d1c0D9d1c0C902o0D9q000C9d1c0D9d1c0C9q000Dasw00C7x6o0Dasw00C7x6o0Dasw00C7x6o0Db5uo0C7k800Db5uo0C7k800Db5uo0C7x6o0Dasw00C7x6o0Dasw00C7x6o0Db5uo0C7k800Db5uo0C7k800Db5uo0C7kdk0Db5uo0C7x6o0Dasw00C7x6o0Dasw00C7x6o0Db5uo0C7m2o0Db4000C7k800Db5uo0C7x6o0Dasw00C7z1c0Dar1c0C7x6o0Dbitc0C779c0D;
Europe/Kaliningrad;4920,3600,7200,10800,14400;q3gtagBc1n28oC7ves0Ba4yw0C7x6o0Basw00C7x6o0Bb8qdc0C1cm000B7k800C9q000B9d1c0C9d1c0B9d1c0C1dro0D9kd80C82tg0Di9avw0E9et80D9d440E9et80D9d440E9et80D9eys0E9d6w0D9d1c0E9d1c0D9d1c0E9d1c0D9d1c0E9d1c0D9d1c0E9d1c0Diq5g0C9d1c0D9q000C9d1c0D9d1c0C9d1c0D9d1c0C9d1c0D9d1c0C9d1c0D9d1c0C9d1c0D9d1c0C9q000Dasw00C7x6o0Dasw00C7x6o0Dasw00C7x6o0Db5uo0C7k800Db5uo0C7k800Db5uo0C7x6o0Dasw00C7x6o0Dasw00C7x6o0Db5uo0C7k800Db5uo0C7k800Db5uo0C7k800Db5uo0C7x6o0Dasw00C7x6o0Dasw00C7x6o0Db5uo0C7k800D1vbzw0C;
Europe/Kirov;11928,10800,14400,18000;13skrr4B5q5zo0Cqi27w0D9et80C9d440D9et80C9d440D9et80C9eys0D9d6w0C9d1c0D9d1c0C9d1c0D9d1c0C9d1c0D9d1c0C9d1c0D9d1c0Ciq5g0B9d1c0C9q000B9d1c0Cs3400B9d1c0C9d1c0B9d1c0C9d1c0B9d1c0C9d1c0B9q000Casw00B7x6o0Casw00B7x6o0Casw00B7x6o0Cb5uo0B7k800Cb5uo0B7k800Cb5uo0B7x6o0Casw00B7x6o0Casw00B7x6o0Cb5uo0B7k800Cb5uo0B7k800Cb5uo0B7k800Cb5uo0B7x6o0Casw00B7x6o0Casw00B7x6o0Cb5uo0B7k800C1vbzw0B;
Europe/Kyiv Europe/Kiev Europe/Uzhgorod Europe/Zaporozhye;7324,7200,10800,3600,14400;16bgu3oB37a03gC5vd6k0Bkzv40D7k800B9q000D1oyg0Cjipzs0E9et80C9d440E9et80C9d440E9et80C9eys0E9d6w0C9d1c0E9d1c0C9d1c0E9d1c0C9d1c0E9d1c0C9d1c0E9d1c0C9d1c0E9d1c0C9d1c0E51ek0Cneqw0B9d1c0C9d1c0B9d1c0C9d1c0B9d1c0C9d1c0B9d1c0C9d1c0B9q000Casys0B;1997,7200,10800,3,5,0,10800,10,5,0,14400
Europe/Lisbon Portugal WET;-2205,0,3600,7200;zvqef4B2bufw0C6zxg0B66800Cbq580B71s40Cbq580B71s40Cbq580B73ms0Cbq580B71s40Cbq580B1b2g00C8so00Bst1c0C8n400B9q000C902o0Ba2yo0C902o0Ba2yo0C8n400Bst1c0C8n400B9d1c0C9d1c0Bsg2o0C9d1c0B902o0C9q000Ba2yo0C8n400B9d1c0C9d1c0B902o0C9q000Ba2yo0Cb5uo0B51hc0Cbmio0B99c00C9ew00B88ao0C25p80D5reo0C3lpg0B779c0C1sqk0D6uao0C38qs0B6uao0C25p80D6hc00C38qs0B6uao0C25p80D6hc00C38qs0B8a5c0C9d1c0B9d9o0C9d1c0B9d1c0C9d1c0B9d1c0C9d1c0B9d1c0C9d1c0B9d1c0C9q000B9d1c0C9d1c0B9d1c0C9d1c0B9d1c0C9d1c0B9d1c0C9d1c0B9d1c0C9q000B9d1c0C9d1c0B9d1c0C9d1c0B9d1c0C9d1c0B9d1c0C9d1c0B9d1c0C9d1c0B9d1c0C9q000B9d1c0C9d1c0B9d1c0C9d1c0B9d1c0C9d1c0B9d1c0C5gyl40B9d1c0C9d1c0B9q2s0C9d1c0B9d1c0C9d1c0B9q000C902o0B9cyk0C9d1c0B9d1c0C9d1c0B9d1c0C9d1c0B9d1c0C9q000B9d1c0C9d1c0B9d440C9d1c0B9d1c0C9d1c0B9d1c0C9d1c0B9d1c0C9d1c0B9d1c0C9q000B9d1c0C9d1c0B9d1c0Ciq2o0D9d1c0C9d1c0D9d1c0C9d1c0D9d1c0C;1996,0,3600,3,5,0,3600,10,5,0,7200
Europe/London Europe/Belfast Europe/Guernsey Europe/Isle_of_Man Europe/Jersey GB GB-Eire;-75,0,3600,7200;2fpyh7Bzqf9hxC6uao0B9q000C8c000B9o5c0C9ruo0B9b6o0C9ew00B9b6o0Cauqo0B88ao0C9ew00B8y800Ca2yo0Ba2yo0C7k800Basw00C8a5c0Basw00C8n400Ba2yo0C8n400B9q000C902o0Bafxc0C8n400Ba2yo0C8n400B9q000C902o0Ba2yo0C8n400Ba2yo0C8n400B9q000C9d1c0Ba2yo0C8n400B9q000C902o0Ba2yo0C8n400Ba2yo0C8n400B9q000C902o0Ba2yo0Cb5uo0B51hc0Cmbmk0D51hc0Cc8qo0D6hc00Cc8qo0D6uao0Cbvs00D8n400Ca4tc0D5clc0C4bms0B9q000C902o0B8a5c0C1frw0D64dc0C4bms0B6uao0Cbvs00B7x6o0Casw00B8n400C9q000B902o0C9q000B9d1c0C9q000B902o0C8n400B9q000C902o0Ba2yo0C8n400Bafxc0C8n400B9q000C902o0Ba2yo0C8n400Ba2yo0C8n400B9q000C902o0B902o0Cb5uo0B7k800Cb5uo0B7x6o0Casw00B7k800Cb5uo0B7k800Cb5uo0B7k800Cb5uo0B7k800Cbitc0B5reo0C1xhuo0B779c0Cbitc0B779c0Cbitc0B779c0Cbitc0B779c0Cbitc0B7k800Cb5uo0B7k800Cb5uo0B7k800Cbitc0B779c0Cbitc0B779c0Cbitc0B7x3w0Casw00B7x6o0Casw00B7x6o0Casw00B7x6o0Cb5uo0B7x6o0Casw00B7x6o0Casw00B7x6o0Casw00B7x6o0Casw00B7x6o0Cb5uo0B7k800Cb5uo0B7x6o0Casw00B7x6o0Casw00B7x6o0Casw00B7x6o0Casw00B7x6o0Casw00B;1996,0,3600,3,5,0,3600,10,5,0,7200
Europe/Madrid;-884,0,3600,7200;u53if4B90sik0C8yas0B9cyk0C9eys0B2d2vw0C8sqs0Bssyk0C8n6s0B9px80C905g0Ba2yo0C902o0Ba2vw0C8n6s0B40lh80C5k2s0B9cyk0C1frw0D7z1c0Cj1c80B8a2k0C13yt80D685g0Cbrzw0D8n6s0Ca2vw0D8n6s0Ca2vw0D8n6s0Ca2vw0D8n6s0C1clx80D7x9g0Ccswik0D905g0C9px80D905g0C8zzw0D9d440C9px80D905g0C9q5k0D9d1c0C9d1c0D9d1c0C9q000D902o0C9d1c0D9d1c0C9d1c0D9d1c0C9d1c0D9d1c0C9d1c0D9q000C9d1c0D9d1c0C9d1c0D9d1c0C9d1c0D9d1c0C9d1c0D9d1c0C9d1c0D9d1c0C9d1c0D9q000C9d1c0D9d1c0C9d1c0D9d1c0C9d1c0D9d1c0C9d1c0D9d1c0C9d1c0D9d1c0C;1996,3600,7200,3,5,0,7200,10,5,0,10800
Europe/Malta;3484,3600,7200;qeizqcBbsbx8sC64ak0B9d440C9et80B88dg0Caunw0B7ig40Cb5rw0B8n6s0C9cyk0Baau2s0C18r9k0B7k800C9q000B9b6o0C8n400Ba4tc0C8j940B9f1k0Cafxc0B89zs0Cafxc0B7kdk0Cb5uo0B979rs0C6h980Bcls40C64dc0Bclpc0C64dc0Bcyo00C64dc0Bclpc0C64dc0Bc8qo0C6hc00Bclpc0C6hc00B9b6o0C9d1c0Bahs00C7m2o0Bb45k0C7x3w0Basys0C7x3w0Basys0C7x3w0Basys0C7x3w0Basys0C7x3w0Ba4w40C8y580B9q2s0C9d1c0B9d1c0C9d1c0B9d1c0C9d1c0B9d1c0C9q000B9d1c0C9d1c0B9d1c0C9d1c0B9d1c0C9d1c0B9d1c0C9d1c0B9d1c0C9d1c0B9d1c0C9q000B9d1c0C9d1c0B9d1c0C9d1c0B9d1c0C9d1c0B9d1c0C9d1c0B9d1c0C9d1c0B;1996,3600,7200,3,5,0,7200,10,5,0,10800
Europe/Minsk;6616,6600,7200,10800,3600,14400;j6jnzcBn4x6ogC379zjcD5r1mk0Cpbf40E7k800C9q000E9d1c0C4oac0Dj6dmk0F9et80D9d440F9et80D9d440F9et80D9eys0F9d6w0D9d1c0F9d1c0D9d1c0F9d1c0D9d1c0F9d1c0D9d1c0F9d1c0D9d1c0F9d1c0D11t6s0C9d1c0D9d1c0C9d1c0D9d1c0C9d1c0D9d1c0C9d1c0D9d1c0C9q000Dasw00C7x6o0Dasw00C7x6o0Dasw00C7x6o0Db5uo0C7k800Db5uo0C7k800Db5uo0C7x6o0Dasw00C7x6o0Dasw00C7x6o0Db5uo0C7k800Db5uo0C7k800Db5uo0C7k800Db5uo0C7x6o0Dasw00C7x6o0Dasw00C7x6o0Db5uo0C7k800D;
Europe/Moscow W-SU;9017,9079,12679,16279,14400,10800,18000,7200;128ci4nBipzuaC97hc0B7yyk0D5i840Cd9p80D1jwk7E2cvk0Fs8o00E1qvw0G8fpc0E1jms0Fis040H412as0Fqi27w0E9et80F9d440E9et80F9d440E9et80F9eys0E9d6w0F9d1c0E9d1c0F9d1c0E9d1c0F9d1c0E9d1c0F9d1c0E9d1c0F9d1c0E9d1c0F9d1c0E9q000Fiq5g0H5reo0F3ljw0E9d1c0F9d1c0E9d1c0F9d1c0E9d1c0F9d1c0E9d1c0F9q000Easw00F7x6o0Easw00F7x6o0Easw00F7x6o0Eb5uo0F7k800Eb5uo0F7k800Eb5uo0F7x6o0Easw00F7x6o0Easw00F7x6o0Eb5uo0F7k800Eb5uo0F7k800Eb5uo0F7k800Eb5uo0F7x6o0Easw00F7x6o0Easw00F7x6o0Eb5uo0F7k800E1vbzw0F;
Europe/Paris Europe/Monaco;561,0,3600,7200;zgi8njB2qx1nlC5luo0B8y800Ca4tc0B7vc00Cauqo0B7idc0Cb7pc0B6sg00Ccyo00B7ayo0Cbko00B7rmo0Ca2yo0Bbvs00C6uao0B902o0C9q000B9d1c0C9d1c0Ba2yo0C8n400B9q000C902o0Ba2yo0C902o0Ba2yo0C8n400B9q000C902o0Ba2yo0C8n400B9d1c0C9d1c0B902o0Ca2yo0B9d1c0C9d1c0B902o0C9q000Ba2yo0C8n400B9d1c0C9d1c0B902o0C9q000Ba2yo0Cb5uo0B51po0C5p8w0D18rcc0C7k800D9q000C9d1c0D9nzs0C922w0D8l9c0Cfxlx80D9cyk0C9q5k0D902o0C9q000D9d1c0C9d1c0D9d1c0C9q000D902o0C9d1c0D9d1c0C9d1c0D9d1c0C9d1c0D9d1c0C9d1c0D9q000C9d1c0D9d1c0C9d1c0D9d1c0C9d1c0D9d1c0C9d1c0D9d1c0C9d1c0D9d1c0C9d1c0D9q000C9d1c0D9d1c0C9d1c0D9d1c0C9d1c0D9d1c0C9d1c0D9d1c0C9d1c0D9d1c0C;1996,3600,7200,3,5,0,7200,10,5,0,10800
Europe/Prague Europe/Bratislava;3464,3600,7200,0;pba12wBcttug8C7ves0Ba4yw0C7x6o0Basw00C7x6o0Bb8qdc0C1cm000B7k800C9q000B9d1c0C9d1c0B9d1c0C9d1c0Bb5uo0C7vc00B2vs40D4bk00B2vmk0C8n400Ba2yo0C8n400B9o5c0C91xc0Bfe6000C9d1c0B9q000C902o0B9d1c0C9d1c0B9d1c0C9d1c0B9d1c0C9d1c0B9d1c0C9q000B9d1c0C9d1c0B9d1c0C9d1c0B9d1c0C9d1c0B9d1c0C9d1c0B9d1c0C9d1c0B9d1c0C9q000B9d1c0C9d1c0B9d1c0C9d1c0B9d1c0C9d1c0B9d1c0C9d1c0B9d1c0C9d1c0B;1996,3600,7200,3,5,0,7200,10,5,0,10800
Europe/Riga;5794,9394,7200,10800,3600,14400;135ua66B7x6o0Aa4tc0B2mg00A3myns0C7fhlkyDgz180Cp5v40E7k800C9q000E9d1c0C9d1c0Ek7s0Dj14ns0F9et80D9d440F9et80D9d440F9et80D9eys0F9d6w0D9d1c0F9d1c0D9d1c0F9d1c0D9d1c0F9d1c0D9d1c0F9d1c0Diq5g0C9d1c0D9q000C9d1c0D9d1c0C9d1c0D9d1c0C9d1c0D9d1c0C9d1c0D9d1c0C9d1c0D9d1c0C9q000D9d1c0C9d440Dasw00C7x6o0Dasw00C7x6o0Db5uo0C;2001,7200,10800,3,5,0,10800,10,5,0,14400
Europe/Rome Europe/San_Marino Europe/Vatican;2996,3600,7200;qeh4z4Bbsds00C64ak0B9d440C9et80B88dg0Caunw0B7ig40Cb5rw0B8n6s0C9cyk0Baau2s0C18r9k0B7k800C9q000B9d1c0C8l9c0Ba4tc0C8j940B9f1k0Cafxc0B89zs0Cafxc0B7kdk0Cb5uo0B979rs0C6h980Bcls40C64dc0Bclpc0C64dc0Bcyo00C64dc0Bclpc0C64dc0Bc8qo0C6hc00Bclpc0C6hc00Bclpc0C64dc0Bc8qo0C6hc00Bclpc0C64dc0Bclpc0C64dc0Bc8qo0C6hc00Bclpc0C6hc00Bc8qo0C6hc00B9q5k0C902o0B9d1c0C9d1c0B9d1c0C9d1c0B9d1c0C9d1c0B9d1c0C9q000B9d1c0C9d1c0B9d1c0C9d1c0B9d1c0C9d1c0B9d1c0C9d1c0B9d1c0C9d1c0B9d1c0C9q000B9d1c0C9d1c0B9d1c0C9d1c0B9d1c0C9d1c0B9d1c0C9d1c0B9d1c0C9d1c0B;1996,3600,7200,3,5,0,7200,10,5,0,10800
Europe/Samara;12020,10800,14400,18000;13skrr4B5q5zo0Cqi27w0D9et80C9d440D9et80C9d440D9et80C9eys0D9d6w0C9d1c0D9d1c0C9d1c0D9d1c0C9d1c0D9d1c0C9d1c0D9d1c0Ciq5g0B9d1c0C9q000Bjt1g0C89zs0D9d1c0C9d1c0D9d1c0C9d1c0D9d1c0C9d1c0D9d1c0C9q000Dasw00C7x6o0Dasw00C7x6o0Dasw00C7x6o0Db5uo0C7k800Db5uo0C7k800Db5uo0C7x6o0Dasw00C7x6o0Dasw00C7x6o0Db5uo0C7k800Db5uo0C7k800Db5uo0C7k800Db5uo0C7x6o0Dasw00C7x6o0Dasw00Cj3440B7k800C;
Europe/Saratov;11058,10800,14400,18000;13skrr4B5q5zo0Cqi27w0D9et80C9d440D9et80C9d440D9et80C9eys0D9d6w0C9d1c0D9d1c0C9d1c0D9d1c0C9d1c0D9d1c0Ciq5g0B9d1c0C9d1c0B9d1c0C9q000B9d1c0Cs3400B9d1c0C9d1c0B9d1c0C9d1c0B9d1c0C9d1c0B9q000Casw00B7x6o0Casw00B7x6o0Casw00B7x6o0Cb5uo0B7k800Cb5uo0B7k800Cb5uo0B7x6o0Casw00B7x6o0Casw00B7x6o0Cb5uo0B7k800Cb5uo0B7k800Cb5uo0B7k800Cb5uo0B7x6o0Casw00B7x6o0Casw00B7x6o0Cb5uo0B7k800C1vbzw0B13m040C;
Europe/Simferopol;8184,8160,7200,10800,3600,14400;j6jmrsBn4x6ooC37a0qoD5xiyk0Ciu340E7k800C9q000E9d1c0Ciac0Djajmk0F9et80D9d440F9et80D9d440F9et80D9eys0F9d6w0D9d1c0F9d1c0D9d1c0F9d1c0D9d1c0F9d1c0D9d1c0F9d1c0D9d1c0F9d1c0Deeio0Cwrpg0D9d1c0C9d1c0D9d1c0C9d1c0D1sl00F7kdk0D9d1c0F9d1c0D9pug0Fat4c0Diq5g0C7x6o0Dasw00C7x6o0Db5uo0C7k800Db5uo0C7k800Db5uo0C7x6o0Dasw00C7x6o0Dasw00C7x6o0Db5uo0C7k800Db5uo0C7k800Db5uo0C7k800Db5uo0C7x6o0Dasw00C7x6o0Dasw00C7x6o0Db5uo0C7k800Db5uo0C7k800Db5uo0C7x6o0Dasw00C7x3w0Fasqg0D;
Europe/Sofia;5596,7016,7200,3600,10800;j6joroB7s708kCp0d6uwD7k800C9q000D9d1c0C9d1c0D9d440Chqq240E9eys0C9o2k0E92040C9o2k0E90880C9pug0E90b00C9d1c0E9d1c0C9d1c0E9q000C9d1c0E9d1c0C9d1c0E9d1c0C9d1c0E9d1c0C9d1c0E9d1c0C9d1c0E9d1c0C9d1c0E9q000C9cvs0E9cyk0C9d440E9cyk0C9d440E9cyk0C9d440E9cyk0C9d440E9cyk0C9q2s0East80C;1997,7200,10800,3,5,0,10800,10,5,0,14400
Europe/Tallinn;5940,3600,7200,10800,14400;1322xu4B3re10C7x6o0Bet6g0Aygov0Ca1zgd0Dktx80Cl94g0B7k800C9q000B9d1c0C8uac0Dj27mk0E9et80D9d440E9et80D9d440E9et80D9eys0E9d6w0D9d1c0E9d1c0D9d1c0E9d1c0D9d1c0E9d1c0D9d1c0E9d1c0Diq5g0C9d1c0D9q000C9d1c0D9d1c0C9d1c0D9d1c0C9d1c0D9d1c0C9d1c0D9d1c0C9d1c0D9d1c0C9q000Dasw00C7x6o0Dasw00C7x6o0Dasys0C7x6o0Db5uo0C;2002,7200,10800,3,5,0,10800,10,5,0,14400
Europe/Tirane;4760,3600,7200;10xc02wBdt2gw8C18pew0B7k800Cm800Bg7ot40C7rjw0Bautg0C7x3w0Bayis0C7x3w0Bb5xg0C7k580Bb42s0C7lzw0Bb42s0C7lzw0Bb42s0C7x3w0Bahus0C7x3w0Bb5xg0C7x3w0Ba4w40C8jbw0B9eys0C9d6w0B9d1c0C9d1c0B9d1c0C9d1c0B9d1c0C9d1c0B9d1c0C9d1c0B9d1c0C9d1c0B9d1c0C9q000B9d1c0C9d1c0B9d1c0C9d1c0B9d1c0C9d1c0B9d1c0C9d1c0B9d1c0C9d1c0B;1996,3600,7200,3,5,0,7200,10,5,0,10800
Europe/Ulyanovsk;11616,10800,14400,18000,7200;13skrr4B5q5zo0Cqi27w0D9et80C9d440D9et80C9d440D9et80C9eys0D9d6w0C9d1c0D9d1c0C9d1c0D9d1c0C9d1c0D9d1c0C9d1c0D9d1c0Ciq5g0B9d1c0C9q000Biq5g0E5reo0B3ljw0C9d1c0B9d1c0C9d1c0B9d1c0C9d1c0B9d1c0C9d1c0B9q000Casw00B7x6o0Casw00B7x6o0Casw00B7x6o0Cb5uo0B7k800Cb5uo0B7k800Cb5uo0B7x6o0Casw00B7x6o0Casw00B7x6o0Cb5uo0B7k800Cb5uo0B7k800Cb5uo0B7k800Cb5uo0B7x6o0Casw00B7x6o0Casw00B7x6o0Cb5uo0B7k800C1vbzw0Bqnc40C;
Europe/Vienna;3921,3600,7200;q3gu27Bc1n1gxC7ves0Ba4yw0C7x6o0Basw00C7x6o0Bt6000C8a5c0Ba7a800C1cm000B7k800C9q000B9d1c0C9d1c0B9d1c0Ciio0Bivmo0C91xc0B9b6o0C9d1c0Ba2yo0C8n400Bgfyyg0C8zzw0B9d9o0C9d1c0B9d1c0C9d1c0B9d1c0C9d1c0B9d1c0C9q000B9d1c0C9d1c0B9d1c0C9d1c0B9d1c0C9d1c0B9d1c0C9d1c0B9d1c0C9d1c0B9d1c0C9q000B9d1c0C9d1c0B9d1c0C9d1c0B9d1c0C9d1c0B9d1c0C9d1c0B9d1c0C9d1c0B;1996,3600,7200,3,5,0,7200,10,5,0,10800
Europe/Vilnius;6076,5040,5736,3600,7200,10800,14400;j6joecBjb5y4sC1g224oDe75ncE4kqk0Dacbs40Fgpp40Epits0D7k800E9q000D9d1c0E65zo0Fj4vx80G9et80F9d440G9et80F9d440G9et80F9eys0G9d6w0F9d1c0G9d1c0F9d1c0G9d1c0F9d1c0G9d1c0F9d1c0G9d1c0Fiq5g0E9d1c0F9q000E9d1c0F9d1c0E9d1c0F9d1c0E9d1c0F9d1c0E9d1c0F9d1c0E9d1c0F9d1c0E9q000Fasw00E7x6o0Fasw00Eiq5g0D7x6o0E;2003,7200,10800,3,5,0,10800,10,5,0,14400
Europe/Volgograd;10660,10800,14400,18000;1424zj0B5glrw4Cqi27w0D9et80C9d440D9et80C9d440D9et80C9eys0D9d6w0C9d1c0D9d1c0C9d1c0D9d1c0C9d1c0D9d1c0Ciq5g0B9d1c0C9d1c0B9d1c0C9q000B9d1c0Cs3400B9d1c0C9d1c0B9d1c0C9d1c0B9d1c0C9d1c0B9q000Casw00B7x6o0Casw00B7x6o0Casw00B7x6o0Cb5uo0B7k800Cb5uo0B7k800Cb5uo0B7x6o0Casw00B7x6o0Casw00B7x6o0Cb5uo0B7k800Cb5uo0B7k800Cb5uo0B7k800Cb5uo0B7x6o0Casw00B7x6o0Casw00B7x6o0Cb5uo0B7k800C1vbzw0B239c40C14oqk0B;
Europe/Warsaw Poland;5040,3600,7200,10800;11r7x74Bdvyc0C7ves0Ba4yw0C7x6o0Basw00Ciruk0D7x6o0C1evbs0B9fcwc0C18cao0B7k800C9q000B9d1c0C9gnw0Ban980C9kd80B8fs40C922w0Bar1c0C7x6o0Ba2yo0C8n400B9q000C902o0B4013w0C64dc0B9d1c0C9d1c0Bclpc0C6hc00B9d1c0C9d1c0Bc8qo0C6hc00Bc8qo0C6hc00Bc8qo0C6hc00Bclpc0C64dc0B6j4tc0C902o0B9q000C9d1c0B9d1c0C9d1c0B9q000C902o0B9d1c0C9d1c0B9d1c0C9d1c0B9d1c0C9d1c0B9d1c0C9q000B9d1c0C9d1c0B9d1c0C9d1c0B9d1c0C9d1c0B9d440C9d1c0B9d1c0C9d1c0B9d1c0C9q000B9d1c0C9d1c0B9d1c0C9d1c0B9d1c0C9d1c0B9d1c0C9d1c0B9d1c0C9d1c0B;1996,3600,7200,3,5,0,7200,10,5,0,10800
Europe/Zurich Europe/Busingen Europe/Vaduz;2048,1786,3600,7200;5ddm68Blc05jaCohmxdmD7x6o0Casw00D7x6o0Ck2zus0D9d1c0C9d1c0D9d1c0C9d1c0D9d1c0C9d1c0D9q000C9d1c0D9d1c0C9d1c0D9d1c0C9d1c0D9d1c0C9d1c0D9d1c0C9d1c0D9d1c0C9d1c0D9q000C9d1c0D9d1c0C9d1c0D9d1c0C9d1c0D9d1c0C9d1c0D9d1c0C9d1c0D9d1c0C;1996,3600,7200,3,5,0,7200,10,5,0,10800
Indian/Chagos;17380,18000,21600;x9sjocB1ag64usC;
Indian/Maldives Indian/Kerguelen;17640,18000;1oxkot4B;
Indian/Mauritius;13800,14400,18000;x9smfsB13jnu7cC8bx80Bdd0wc0C7x3w0B;
Pacific/Apia;45184,-41216,-41400,-39600,-36000,50400,46800;ppjy80B9nfeo0Ckcrmt4Dvp3la0E9odo0D902o0E4zbk0F4qog0G9d1c0F9q000G902o0F9q000G902o0F9q000G902o0F9q000G902o0F9q000G902o0F9q000G9d1c0F9q000G902o0F9q000G902o0F9q000G;
Pacific/Auckland Antarctica/McMurdo Antarctica/South_Pole NZ;41944,41400,45000,43200,46800;dcswq0Busn9z4C64ak0Bbiw40D7x5a0Basxe0D7x5a0Basxe0D7x5a0Basxe0D8a3y0Bafyq0D8a3y0Bafyq0Dafvy0B7x820Dasum0B7x820Dasum0B7x820Dasum0B7x820Dasum0B7x820Db5ta0B7k9e0Db5ta0B7x820Dhsl2m0E5reo0Dclpc0E6uao0Dc8qo0E6hc00Dc8qo0E6hc00Dc8qo0E6hc00Dc8qo0E6hc00Dc8qo0E6hc00Dc8qo0E6uao0Dc8qo0E6hc00Dc8qo0E6hc00Dc8qo0E6hc00Dc8qo0E6hc00Dc8qo0E6hc00Dc8qo0E6uao0Dc8qo0E6hc00Db5uo0E8a5c0Dafxc0E8a5c0Dafxc0E8a5c0Dafxc0E8n400Da2yo0E8n400Da2yo0E8n400Da2yo0E8n400Dafxc0E8a5c0Dafxc0E8a5c0Dafxc0E8n400Da2yo0E8n400Da2yo0E8n400Dafxc0E8a5c0Dafxc0E8a5c0Dafxc0E8n400Da2yo0E8n400Da2yo0E8n400Da2yo0E8n400Da2yo0E;2008,43200,46800,9,5,0,7200,4,1,0,10800
Pacific/Bougainville;37336,35312,36000,32400,39600;j6j0a0B7tuc88Cosc24wD1n05g0C1071c40E;
Pacific/Chatham NZ-CHAT;44028,44100,45900,49500;dcsv44B149qqm0Cf1tq90D5reo0Cclpc0D6uao0Cc8qo0D6hc00Cc8qo0D6hc00Cc8qo0D6hc00Cc8qo0D6hc00Cc8qo0D6hc00Cc8qo0D6uao0Cc8qo0D6hc00Cc8qo0D6hc00Cc8qo0D6hc00Cc8qo0D6hc00Cc8qo0D6hc00Cc8qo0D6uao0Cc8qo0D6hc00Cb5uo0D8a5c0Cafxc0D8a5c0Cafxc0D8a5c0Cafxc0D8n400Ca2yo0D8n400Ca2yo0D8n400Ca2yo0D8n400Cafxc0D8a5c0Cafxc0D8a5c0Cafxc0D8n400Ca2yo0D8n400Ca2yo0D8n400Cafxc0D8a5c0Cafxc0D8a5c0Cafxc0D8n400Ca2yo0D8n400Ca2yo0D8n400Ca2yo0D8n400Ca2yo0D;2008,45900,49500,9,5,0,9900,4,1,0,13500
Pacific/Easter Chile/EasterIsland;-26248,-25200,-21600,-18000;1ao2lc8BivmeuwC7k580Bc8tg0C6h980Ba31g0C7x3w0Basys0C7x3w0Bb5xg0C7k580Bag040C8a2k0Bb5xg0C7k580Bb5xg0C7x3w0Basys0C7x3w0Basys0C7x3w0Bb5xg0C7k580Bb5xg0C7k580Bb5xg0C7x3w0Basys0Ciq2o0D7x3w0Casys0D7x3w0Cb5xg0D7k580Cb5xg0D7k580Cb5xg0D9cyk0C9d440D7x3w0Casys0D7x3w0Cb5xg0D7k580C9q2s0D8zzw0Cb5xg0D7x3w0Casys0D7x3w0Casys0D7x3w0Casys0D7x3w0Cb5xg0D7k580Cb5xg0D8n180Ca31g0D7x3w0Ca31g0D9px80C9q2s0D7x3w0Cb5xg0D7k580Cb5xg0D7k580Cb5xg0D7k580Cb5xg0D7x3w0Casys0D7x3w0Casys0D7x3w0Cb5xg0D7k580Cb5xg0D8n180Ca31g0D7x3w0Casys0D8zzw0C9q2s0Dast80C5eis0Dcyl80C6hes0Dc8nw0C6udg0Dbvp80C6udg0Dvonw0C4olg0De1h80C4olg0De1h80C4olg0Dc8nw0C7x9g0Dast80C7x9g0Dast80C7x9g0Dast80C8a840D;2023,-21600,-18000,9,1,6,79200,4,1,6,79200
Pacific/Efate;40396,39600,43200;zwbr90Bwbu364C51hc0B4y8qs0C9cyk0B9d440C9cyk0B9q2s0C8zzw0B9q2s0C9cyk0B9d440C9cyk0B9d440C9cyk0B9d440C9cyk0B9d440C9cyk0B9q2s0C64ak0Be1ms0C4ofw0B;
Pacific/Fakaofo;-41096,-39600,46800;u54e4oB1lxe1igC;
Pacific/Fiji;42944,43200,46800;11veym8B17bs00wC64dc0Bcyo00C5reo0B53a5c0C64dc0Basw00C6uao0Bbvs00C4oio0Be1k00C4oio0Beeio0C4bh80Berk40C3ylc0Berhc0C3ylc0Bf4g00C3lmo0Bf4g00C3lmo0Bf4g00C3lmo0Bfheo0C38o00Bhn6o0C1fuo0B;
Pacific/Galapagos;-21504,-18000,-21600;19sqpogBspdryoC3lsas0B3jp80C;
Pacific/Gambier;-32388,-32400;109ui2sB;
Pacific/Guadalcanal Pacific/Pohnpei Pacific/Ponape;38388,39600;109szgsB;
Pacific/Guam Pacific/Saipan;-51660,34740,36000,32400,39600;wyua4Bt83xc0Cld6pp0D1dl9g0C7s1k40Etxp80C3frms0EqdrpoC7kgacE3ljw0Cc8tg0E6u7w0Cbvus0E6u7w0C16uo40E3ljw0C16aas0E4ivxoCcls2cE6h980C;
Pacific/Honolulu HST Pacific/Johnston US/Hawaii;-37886,-37800,-34200,-36000;rjtzniBjgnatmC13l00B4jvb00C1wd180Bvotg0D;
Pacific/Kanton Pacific/Enderbury;0,-43200,-39600,46800;1d9xnr4Blypqo0C7yiqk0D;
Pacific/Kiritimati;-37760,-38400,-36000,50400;u54bk0B153iz5sC7yirhcD;
Pacific/Kosrae;-47284,39116,39600,32400,36000,43200;wyqwkBt83xc0C76a4ykD29hhk0C9cmd40E27sas0D29fk40Ccm2540Ff9l3w0C;
Pacific/Kwajalein Kwajalein;40160,39600,36000,32400,-43200,43200;u52nfkBise0fkC27sas0D1hjus0Bddxug0Ecgv6k0F;
Pacific/Marquesas;-33480,-34200;109uix4B;
Pacific/Nauru;40060,41400,32400,43200;14lkcucBba66ysC1kwca0Bhfzda0D;
Pacific/Niue;-40780,-40800,-39600;1l660jwB63yiokC;
Pacific/Norfolk;40312,40320,41400,45000,39600;u52nbcBq3einsCcfj8q0D6hc00Cl6nk00E;2019,39600,43200,10,1,0,7200,4,1,0,10800
Pacific/Noumea;39948,39600,43200;zwbrlgBye0ixoC4dbw0Becqs0C4f6k0B99p700C4oio0B;
Pacific/Pago_Pago Pacific/Midway Pacific/Samoa US/Samoa;45432,-40968,-39600;ppjy14B9nfeo0C;
Pacific/Palau;-54124,32276,32400;wyw6kBt83xc0C;
Pacific/Pitcairn;-31220,-30600,-28800;u546icB1esg26sC;
Pacific/Port_Moresby Antarctica/DumontDUrville Pacific/Chuuk Pacific/Truk Pacific/Yap;35320,35312,36000;j6j1u0B7tuao8C;
Pacific/Rarotonga;48056,-38344,-37800,-34200,-36000;tlzg08Brk6io0Cdlv68wD5rbw0Ec8s20D6ham0Ec8s20D6ham0Ec8s20D6u9a0Ec8s20D6ham0Ec8s20D6ham0Ec8s20D6ham0Ec8s20D6ham0Ec8s20D6ham0Ec8s20D6u9a0Ec8s20D6ham0Ec8s20D6ham0Ec8s20D6ham0E;
Pacific/Tahiti;-35896,-36000;109uks8B;
Pacific/Tarawa Pacific/Funafuti Pacific/Majuro Pacific/Wake Pacific/Wallis;41524,43200;u52mdoB;
Pacific/Tongatapu;44352,44400,46800,50400;1hgqc74B7znjyoCk8amdcD8fpc0Cbvs00D4bh80Ceelg0D4bh80C7pmis0D3lmo0C;"

end NativeBlock.Zone
